import RowStore.Text.Split

namespace RowStore.Text

/-- The items of a list; the empty text is a list of one empty item. -/
def items (text : String) : List String :=
  (pieces ", ".toList text.toList).map String.ofList

def joinItems (items : List String) : String :=
  String.ofList (join ", ".toList (items.map String.toList))

example : items "a, b,c, " = ["a", "b,c", ""] := by decide

end RowStore.Text
