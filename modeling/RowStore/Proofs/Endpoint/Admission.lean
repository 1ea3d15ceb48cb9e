import RowStore.Endpoint

/-!
What stands before the statements of a request.

A request runs statements only if it arrives at a route that takes statements, holds nothing but
texts where its statements belong, and finds the database started. Any other request leaves
everything as it was.
-/

namespace RowStore.Endpoint

open Validation

namespace Request

/-- A request arrives at a route and has a method by which it is asked for. -/
structure Asks (request : Request) (route : Route) : Prop where
  arrives : Route.ofTarget? request.target = some route
  allowed : request.method ∈ route.methods

/-- The body of a request is an object with a member of this name and value. -/
def Holds (request : Request) (name : String) (value : Json) : Prop :=
  ∃ json members, request.body.read request.limits.reading = .ok json ∧
    json.members? = some members ∧ entryValue? name members = some value

variable {request : Request} {name : String} {value : Json}

theorem Holds.field {α : Type} (hholds : request.Holds name value)
    (check : List String → Json → Gathered Complaint α) :
    request.body.field request.limits.reading name check =
      (check [Body.place, name] value).mapError .faulty := by
  obtain ⟨json, members, hread, hmembers, hmember⟩ := hholds
  simp only [Body.field, hread, bind, Except.bind, hmembers, hmember]

end Request

/-! Lists of statements. -/

section Texts

variable (place : List String) (position : Nat)

/-- The items that are no texts. -/
def spoilt (items : List Json) : List Json :=
  items.filter fun
    | .string _ => false
    | _ => true

theorem mem_spoilt_iff {items : List Json} {item : Json} :
    item ∈ spoilt items ↔ item ∈ items ∧ ∀ text, item ≠ .string text := by
  rw [spoilt, List.mem_filter]
  refine and_congr_right' ?_
  cases item <;> simp

theorem checkText_of_spoilt {item : Json} (hitem : ∀ text, item ≠ .string text) :
    ∃ issue, checkText place item = .error [⟨issue, item⟩] := by
  cases item with
  | string text => exact absurd rfl (hitem text)
  | null | bool | int | real | torn | list | object | tornObject => exact ⟨_, rfl⟩

theorem spoilt_map_string (texts : List String) : spoilt (texts.map .string) = [] := by
  induction texts with
  | nil => rfl
  | cons text texts ih => exact ih

theorem checkTextsFrom_cases (items : List Json) :
    (∃ texts, items = texts.map .string ∧ checkTextsFrom place position items = .ok texts) ∨
      spoilt items ≠ [] ∧ ∃ complaints, checkTextsFrom place position items = .error complaints ∧
        complaints.map (·.value) = spoilt items := by
  induction items generalizing position with
  | nil => exact .inl ⟨[], rfl, rfl⟩
  | cons item items ih =>
      rw [checkTextsFrom]
      by_cases hitem : ∃ text, item = .string text
      · obtain ⟨text, rfl⟩ := hitem
        have htext : checkText (place ++ [toString position]) (.string text) = .ok text := rfl
        rw [htext]
        rcases ih (position + 1) with
          ⟨texts, rfl, htexts⟩ | ⟨hspoilt, complaints, hcomplaints, hvalues⟩
        · exact .inl ⟨text :: texts, rfl, by rw [htexts]; rfl⟩
        · exact .inr ⟨hspoilt, complaints, by rw [hcomplaints]; rfl, hvalues⟩
      · have hitem' := not_exists.mp hitem
        obtain ⟨issue, hissue⟩ := checkText_of_spoilt (place ++ [toString position]) hitem'
        have hcons : spoilt (item :: items) = item :: spoilt items :=
          List.filter_cons_of_pos (List.mem_filter.mp (mem_spoilt_iff.mpr
            ⟨List.mem_singleton_self item, hitem'⟩)).2
        rw [hissue, hcons]
        refine .inr ⟨List.cons_ne_nil _ _, ?_⟩
        rcases ih (position + 1) with ⟨texts, rfl, htexts⟩ | ⟨-, complaints, hcomplaints, hvalues⟩
        · rw [htexts, spoilt_map_string]
          exact ⟨[⟨issue, item⟩], rfl, rfl⟩
        · rw [hcomplaints]
          exact ⟨⟨issue, item⟩ :: complaints, rfl, congrArg (item :: ·) hvalues⟩

theorem checkTextsFrom_map_string (texts : List String) :
    checkTextsFrom place position (texts.map .string) = .ok texts := by
  rcases checkTextsFrom_cases place position (texts.map .string) with
    ⟨others, hothers, hcheck⟩ | ⟨hspoilt, -⟩
  · rwa [(List.map_inj_right fun _ _ => Json.string.inj).mp hothers] at hcheck ⊢
  · exact absurd (spoilt_map_string texts) hspoilt

end Texts

def Limits.Writes (limits : Limits) (value : Json) : Prop :=
  value.height ≤ limits.writing ∧ value.isFinite = true ∧ value.isWhole = true

instance (limits : Limits) (value : Json) : Decidable (limits.Writes value) :=
  inferInstanceAs (Decidable (_ ∧ _ ∧ _))

theorem unwritable?_eq_none_iff {limits : Limits} {values : List Json} :
    unwritable? limits values = none ↔ ∀ value ∈ values, limits.Writes value := by
  simp only [unwritable?, Limits.Writes]
  constructor
  · intro hnone
    split at hnone
    · contradiction
    split at hnone
    · contradiction
    split at hnone
    · contradiction
    simp_all
  · intro hwrites
    rw [if_neg, if_neg, if_neg] <;> simp_all

variable {request : Request} {route : Route}

theorem handle_of_asks (hasks : request.Asks route) (host : Host) :
    handle host request = answer host request route := by
  simp only [handle, hasks.arrives, hasks.allowed, if_true]

theorem handle_of_text {text : String} (hasks : request.Asks .execute)
    (hholds : request.Holds "statement" (.string text)) (host : Host) :
    handle host request = execute host (request.submission 0 text) := by
  rw [handle_of_asks hasks, answer, hholds.field]
  rfl

theorem handle_of_texts {texts : List String} (hasks : request.Asks .executeBatch)
    (hholds : request.Holds "statements" (.list (texts.map .string))) (host : Host) :
    handle host request = executeBatch host (request.submissions texts) := by
  rw [handle_of_asks hasks, answer, hholds.field, checkTexts, checkTextsFrom_map_string]
  rfl

/-- A batch with an item that is no text is answered with its issues if all such items can be
repeated. -/
theorem handle_of_spoilt {items : List Json} (hasks : request.Asks .executeBatch)
    (hholds : request.Holds "statements" (.list items)) (hspoilt : spoilt items ≠ [])
    (host : Host) :
    (handle host request).2 = host ∧
      if ∀ item ∈ spoilt items, request.limits.Writes item then
        ∃ issues, (handle host request).1 = .ok (.invalid issues)
      else ∃ mishap, (handle host request).1 = .error mishap := by
  rcases checkTextsFrom_cases [Body.place, "statements"] 0 items with
    ⟨texts, rfl, -⟩ | ⟨-, complaints, hcomplaints, hvalues⟩
  · exact absurd (spoilt_map_string texts) hspoilt
  have hhandle : handle host request =
      ((Defect.faulty complaints).response request.limits, host) := by
    rw [handle_of_asks hasks, answer, hholds.field, checkTexts, hcomplaints]
    rfl
  rw [hhandle, Defect.response, hvalues]
  cases hmishap : unwritable? request.limits (spoilt items) with
  | none =>
      rw [if_pos (unwritable?_eq_none_iff.mp hmishap)]
      exact ⟨rfl, _, rfl⟩
  | some mishap =>
      rw [if_neg (mt unwritable?_eq_none_iff.mpr (by simp [hmishap]))]
      exact ⟨rfl, mishap, rfl⟩

/-- What a request can do: nothing, or to run the statements that it holds. -/
inductive Handled (host : Host) (request : Request) : Prop
  | unchanged (hsame : (handle host request).2 = host)
  | executed (hasks : request.Asks .execute) (hstarted : host.database.started = true)
      (submission : Submission)
      (hhandle : handle host request =
        ((Executed.ofOutcome (host.drain.perform submission).1).map .executed,
          (host.drain.perform submission).2))
  | executedBatch (hasks : request.Asks .executeBatch) (hstarted : host.database.started = true)
      (submissions : List Submission)
      (hhandle : handle host request =
        (((host.drain.performAll submissions).1.mapM Executed.ofOutcome).map .batch,
          (host.drain.performAll submissions).2))

theorem whenStarted_of_stopped {host : Host} (hstopped : ¬ host.database.started = true)
    (answer : Host → Except Mishap Response × Host) :
    whenStarted host answer = (.ok (.unavailable .notStarted), host) := if_neg hstopped

theorem whenStarted_of_started {host : Host} (hstarted : host.database.started = true)
    (answer : Host → Except Mishap Response × Host) : whenStarted host answer = answer host :=
  if_pos hstarted

theorem snd_whenStarted_const (host : Host) (response : Host → Except Mishap Response) :
    (whenStarted host fun host => (response host, host)).2 = host := by
  unfold whenStarted
  split <;> rfl

theorem handled_of_asks (hasks : request.Asks route) (host : Host) : Handled host request := by
  have hanswer := handle_of_asks hasks host
  cases route with
  | health | schema | manual | authorization | reference => exact .unchanged (by rw [hanswer]; rfl)
  | stats | tables => exact .unchanged (by rw [hanswer]; exact snd_whenStarted_const ..)
  | execute =>
      cases hfield : request.body.field request.limits.reading "statement" checkText with
      | error defect => exact .unchanged (by rw [hanswer, answer, hfield])
      | ok text =>
          rw [answer, hfield] at hanswer
          by_cases hstarted : host.database.started = true
          · exact .executed hasks hstarted _ (hanswer.trans (whenStarted_of_started hstarted _))
          · exact .unchanged
              (hanswer ▸ congrArg Prod.snd (whenStarted_of_stopped hstarted _))
  | executeBatch =>
      cases hfield : request.body.field request.limits.reading "statements" checkTexts with
      | error defect => exact .unchanged (by rw [hanswer, answer, hfield])
      | ok texts =>
          rw [answer, hfield] at hanswer
          by_cases hstarted : host.database.started = true
          · exact .executedBatch hasks hstarted _
              (hanswer.trans (whenStarted_of_started hstarted _))
          · exact .unchanged
              (hanswer ▸ congrArg Prod.snd (whenStarted_of_stopped hstarted _))

theorem handled (host : Host) (request : Request) : Handled host request := by
  cases hroute : Route.ofTarget? request.target with
  | none => exact .unchanged (by simp only [handle, hroute])
  | some route =>
      by_cases hallowed : request.method ∈ route.methods
      · exact handled_of_asks ⟨hroute, hallowed⟩ host
      · exact .unchanged (by simp only [handle, hroute, if_neg hallowed])

theorem handle_of_method (hmethod : request.method ≠ "POST") (host : Host) :
    (handle host request).2 = host := by
  cases handled host request with
  | unchanged hsame => exact hsame
  | executed hasks => exact absurd (List.mem_singleton.mp hasks.allowed) hmethod
  | executedBatch hasks => exact absurd (List.mem_singleton.mp hasks.allowed) hmethod

theorem handle_of_status {host : Host} {response : Response}
    (hresponse : (handle host request).1 = .ok response) (hstatus : response.status ≠ 200) :
    (handle host request).2 = host := by
  cases handled host request with
  | unchanged hsame => exact hsame
  | executed hasks hstarted submission hhandle =>
      rw [hhandle] at hresponse
      cases hexecuted : Executed.ofOutcome (host.drain.perform submission).1 <;>
        rw [hexecuted] at hresponse <;> cases hresponse
      exact absurd rfl hstatus
  | executedBatch hasks hstarted submissions hhandle =>
      rw [hhandle] at hresponse
      cases hexecuted : (host.drain.performAll submissions).1.mapM Executed.ofOutcome <;>
        rw [hexecuted] at hresponse <;> cases hresponse
      exact absurd rfl hstatus

end RowStore.Endpoint
