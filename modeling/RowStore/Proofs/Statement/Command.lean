import RowStore.Proofs.Statement.Reading
import RowStore.Proofs.Text.Quoted
import RowStore.Statement.Command

namespace RowStore

open Text

namespace Command

theorem toList_operandText (operand : String) :
    (operandText (some operand)).toList = quoted operand.toList := by
  simp [operandText, quote]

theorem absent_append_ne (operand : String) (rest more : List Char) :
    (operandText none).toList ++ rest ≠ (operandText (some operand)).toList ++ more := by
  rw [toList_operandText]
  exact (quoted_append_ne_cons (by decide) _ _ _).symm

theorem operandText_append_inj {first second : Option String} {rest more : List Char}
    (h : (operandText first).toList ++ rest = (operandText second).toList ++ more) :
    first = second ∧ rest = more := by
  cases first with
  | none =>
      cases second with
      | none => exact ⟨rfl, List.append_cancel_left h⟩
      | some operand => exact (absent_append_ne _ _ _ h).elim
  | some operand =>
      cases second with
      | none => exact (absent_append_ne _ _ _ h.symm).elim
      | some other =>
          rw [toList_operandText, toList_operandText] at h
          obtain ⟨htext, hrest⟩ := quoted_append_inj h
          exact ⟨congrArg some (String.toList_inj.mp htext), hrest⟩

theorem closing_append_ne (operand : Option String) (rest more : List Char) :
    (operandText operand).toList ++ rest ≠ ')' :: more := by
  cases operand with
  | none => exact fun h => absurd (List.cons_eq_cons.mp h).1 (by decide)
  | some operand =>
      rw [toList_operandText]
      exact quoted_append_ne_cons (by decide) _ _ _

/-! Lists of operands. -/

def behind : List (Option String) → List Char
  | [] => [')']
  | operand :: operands => ',' :: ' ' :: ((operandText operand).toList ++ behind operands)

def listed : List (Option String) → List Char
  | [] => [')']
  | operand :: operands => (operandText operand).toList ++ behind operands

theorem listed_eq (operands : List (Option String)) :
    (", ".intercalate (operands.map operandText)).toList ++ [')'] = listed operands := by
  rw [String.toList_intercalate]
  cases operands with
  | nil => rfl
  | cons operand operands =>
      induction operands generalizing operand with
      | nil => simp [listed, behind]
      | cons next operands ih =>
          rw [List.map_cons, List.map_cons, List.map_cons, List.map_cons,
            List.intercalate_cons_cons, List.append_assoc, List.append_assoc]
          exact congrArg _ (congrArg (", ".toList ++ ·) (ih next))

theorem behind_inj {first second : List (Option String)} (h : behind first = behind second) :
    first = second := by
  induction first generalizing second with
  | nil =>
      cases second with
      | nil => rfl
      | cons other second => exact absurd (List.cons_eq_cons.mp h).1 (by decide)
  | cons operand first ih =>
      cases second with
      | nil => exact absurd (List.cons_eq_cons.mp h).1 (by decide)
      | cons other second =>
          have hoperands := (List.cons_eq_cons.mp (List.cons_eq_cons.mp h).2).2
          obtain ⟨rfl, hbehind⟩ := operandText_append_inj hoperands
          rw [ih hbehind]

theorem listed_inj {first second : List (Option String)} (h : listed first = listed second) :
    first = second := by
  cases first with
  | nil =>
      cases second with
      | nil => rfl
      | cons other second => exact (closing_append_ne _ _ _ h.symm).elim
  | cons operand first =>
      cases second with
      | nil => exact (closing_append_ne _ _ _ h).elim
      | cons other second =>
          obtain ⟨rfl, hbehind⟩ := operandText_append_inj h
          rw [behind_inj hbehind]

/-! Whole texts. -/

theorem toList_text (command : Command) :
    command.text.toList = command.kind.title.toList ++ '(' :: listed command.operands := by
  rw [text, String.toList_append, String.toList_append, String.toList_append, List.append_assoc,
    List.append_assoc]
  exact congrArg (_ ++ '(' :: ·) (listed_eq command.operands)

theorem title_append_inj {first second : Statement.Kind} {rest more : List Char}
    (h : first.title.toList ++ rest = second.title.toList ++ more) : first = second := by
  have hinitial := congrArg List.head? h
  cases first <;> cases second <;> simp [Statement.Kind.title] at hinitial ⊢

theorem text_inj {first second : Command} (h : first.text = second.text) : first = second := by
  have htext := congrArg String.toList h
  rw [toList_text, toList_text] at htext
  have hkind := title_append_inj htext
  rw [hkind] at htext
  have hlisted := (List.cons_eq_cons.mp (List.append_cancel_left htext)).2
  cases first
  cases second
  exact congr (congrArg Command.mk hkind) (listed_inj hlisted)

/-- The command of a statement tells the text that the statement was read from. -/
theorem parsed_text_inj {first second : String} {statement other : Statement}
    (hfirst : Statement.parse first = some statement)
    (hsecond : Statement.parse second = some other)
    (htext : statement.command.text = other.command.text) : first = second := by
  obtain rfl : statement = other := Statement.command_inj (text_inj htext)
  rw [← (Statement.parse_sound hfirst).render_eq, (Statement.parse_sound hsecond).render_eq]

theorem isPrintable_of_mem_operandText {operand : Option String} {c : Char}
    (hmem : c ∈ (operandText operand).toList) : isPrintable c = true := by
  cases operand with
  | none => exact List.all_eq_true.mp (rfl : "None".toList.all isPrintable = true) c hmem
  | some operand => exact isPrintable_of_mem_quoted (toList_operandText operand ▸ hmem)

theorem isPrintable_of_mem_behind {operands : List (Option String)} {c : Char}
    (hmem : c ∈ behind operands) : isPrintable c = true := by
  induction operands with
  | nil =>
      obtain rfl := List.mem_singleton.mp hmem
      rfl
  | cons operand operands ih =>
      rw [behind, List.mem_cons, List.mem_cons, List.mem_append] at hmem
      rcases hmem with rfl | rfl | hoperand | hbehind
      · rfl
      · rfl
      · exact isPrintable_of_mem_operandText hoperand
      · exact ih hbehind

theorem isPrintable_of_mem_listed {operands : List (Option String)} {c : Char}
    (hmem : c ∈ listed operands) : isPrintable c = true := by
  have hbehind : c ∈ behind operands := by
    cases operands with
    | nil => exact hmem
    | cons operand operands => exact List.mem_cons_of_mem _ (List.mem_cons_of_mem _ hmem)
  exact isPrintable_of_mem_behind hbehind

theorem isPrintable_of_mem_title {kind : Statement.Kind} {c : Char}
    (hmem : c ∈ kind.title.toList) : isPrintable c = true := by
  have hall : kind.title.toList.all isPrintable = true := by
    cases kind <;> rfl
  exact List.all_eq_true.mp hall c hmem

theorem isPrintable_of_mem_text {command : Command} {c : Char} (hmem : c ∈ command.text.toList) :
    isPrintable c = true := by
  rw [toList_text, List.mem_append, List.mem_cons] at hmem
  rcases hmem with htitle | rfl | hlisted
  · exact isPrintable_of_mem_title htitle
  · rfl
  · exact isPrintable_of_mem_listed hlisted

/-- Commands have the same text only if they are the same, and the text is one line of printable
characters. -/
theorem text_unambiguous :
    (∀ first second : Command, first.text = second.text ↔
      first.kind = second.kind ∧ first.operands = second.operands) ∧
    ∀ command : Command,
      '\n' ∉ command.text.toList ∧ command.text.toList.all isPrintable = true := by
  refine ⟨fun first second => ⟨fun htext => ?_, fun ⟨hkind, hoperands⟩ => ?_⟩,
    fun command => ⟨fun hmem => ?_, ?_⟩⟩
  · rw [text_inj htext]
    exact ⟨rfl, rfl⟩
  · rw [text, text, hkind, hoperands]
  · have hprintable := isPrintable_of_mem_text hmem
    rw [isPrintable_newline] at hprintable
    contradiction
  · exact List.all_eq_true.mpr fun c => isPrintable_of_mem_text

example : text ⟨.delete, [some "a', 'b"]⟩ ≠ text ⟨.delete, [some "a", some "b"]⟩ := by decide

end Command

end RowStore
