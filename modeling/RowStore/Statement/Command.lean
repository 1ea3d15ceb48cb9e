import RowStore.Statement.Basic
import RowStore.Text.Quoted

namespace RowStore

structure Command where
  kind : Statement.Kind
  operands : List (Option String)
  deriving DecidableEq

namespace Command

def operandText : Option String → String
  | none => "None"
  | some operand => quote operand

def text (command : Command) : String :=
  command.kind.title ++ "(" ++ ", ".intercalate (command.operands.map operandText) ++ ")"

example : text ⟨.delete, [some "t", none]⟩ = "DELETE('t', None)" := by decide

end Command

def Statement.command (statement : Statement) : Command :=
  ⟨statement.kind, statement.operands⟩

theorem Statement.command_inj {first second : Statement} (h : first.command = second.command) :
    first = second := by
  cases first <;> cases second <;> simp_all [command, kind, operands]

end RowStore
