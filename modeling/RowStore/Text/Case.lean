import RowStore.Text.Capital
import RowStore.Text.SmallLetter

namespace RowStore.Text

def inCapitals (text : String) : String := String.ofList (text.toList.flatMap capitals)

def inSmallLetters (text : String) : String := String.ofList (text.toList.flatMap smallLetters)

example : inCapitals "wArNıng" = "WARNING" := by decide

example : inSmallLetters "wArNING" = "warning" := by decide

end RowStore.Text
