import RowStore.Trace.Recorder

/-!
Spans that are nested: what each of them is when it has ended.

Of the kit only what is documented of one span is used: it is the current one while its work goes
on, its parent is the one that was current before, and the fault of its work ends it and goes on.
-/

namespace RowStore.Trace

variable {σ ε α : Type}

namespace Opening

def name : Opening → String
  | named name _ => name
  | statement kind _ => "memdb." ++ kind

def attributes : Opening → List (String × Json)
  | named _ attributes => attributes
  | statement kind text =>
      [("memdb.statement.kind", .string kind), ("memdb.statement", .string text)]

theorem around_eq (kit : Kit σ) (fault : ε → Fault) (opening : Opening) (work : Work σ ε α) :
    opening.around kit fault work =
      kit.within fault opening.name opening.attributes work := by
  cases opening <;> rfl

end Opening

namespace Kit

/-- A span begins, with a number that no other span has, and is the current one. -/
structure Begins (kit : Kit σ) (id : Nat) (before begun : σ) : Prop where
  fresh : id ∉ kit.issued before
  issued : kit.issued begun = id :: kit.issued before
  current : kit.current begun = some id
  finished : kit.finished begun = kit.finished before

/-- Spans end after what ended inside them. -/
structure Ends (kit : Kit σ) (spans : List Span) (inner after : σ) : Prop where
  issued : kit.issued after = kit.issued inner
  finished : kit.finished after = kit.finished inner ++ spans

def ended (kit : Kit σ) (id : Nat) (parent : Option Nat) (name : String)
    (attributes : List (String × Json)) (raised : Option Fault) : Span :=
  { id := id
    parent := parent
    name := name
    attributes := kit.keep attributes
    status := raised
    events := raised.toList }

/-- What is documented of one span. A fault that its work raises is recorded on it, is its status,
and goes on as it is. What was current before the span is current after it. -/
def Documented (kit : Kit σ) : Prop :=
  ∀ name attributes before, ∃ id begun, kit.Begins id before begun ∧
    ∀ {ε α : Type} (fault : ε → Fault) (work : Work σ ε α),
      ∃ after, kit.within fault name attributes work before = ((work begun).1, after) ∧
        kit.current after = kit.current before ∧
        kit.Ends [kit.ended id (kit.current before) name attributes
          (Fault.ofResult? fault (work begun).1)] (work begun).2 after

theorem documented_ofRecorder {recorder : σ → Recorder} {change : (Recorder → Recorder) → σ → σ}
    (keep : List (String × Json) → List (String × Json))
    (hchange : ∀ f state, recorder (change f state) = f (recorder state)) :
    (Kit.ofRecorder recorder change keep).Documented := by
  intro name attributes before
  refine ⟨(recorder before).next, change Recorder.enter before, ?_, fun fault work =>
    ⟨_, rfl, ?_, ?_⟩⟩
  · constructor <;> simp only [ofRecorder, hchange]
    · simp
    · rw [Recorder.enter, List.range_succ, List.reverse_append]
      rfl
    · rfl
    · rfl
  · simp only [ofRecorder, hchange]
    rfl
  · constructor <;> simp only [ofRecorder, hchange] <;> rfl

/-- Spans begin one inside another. -/
structure Opens (kit : Kit σ) (ids : List Nat) (before deepest : σ) : Prop where
  nodup : ids.Nodup
  fresh : ∀ id ∈ ids, id ∉ kit.issued before
  issued : kit.issued deepest = ids.reverse ++ kit.issued before
  current : (kit.current before :: ids.map some).getLast? = some (kit.current deepest)
  finished : kit.finished deepest = kit.finished before

/-- Spans that began one inside another, from the outermost to the innermost. -/
def nested (kit : Kit σ) (openings : List Opening) (ids : List Nat) (outer : Option Nat)
    (raised : Option Fault) : List Span :=
  (openings.zip (ids.zip (outer :: ids.map some))).map fun (opening, id, outer) =>
    kit.ended id outer opening.name opening.attributes raised

variable {kit : Kit σ}

theorem Opens.nil (state : σ) : kit.Opens [] state state where
  nodup := List.nodup_nil
  fresh := fun _ h => absurd h List.not_mem_nil
  issued := rfl
  current := rfl
  finished := rfl

theorem Opens.cons {id : Nat} {ids : List Nat} {before begun deepest : σ}
    (hbegins : kit.Begins id before begun) (hopens : kit.Opens ids begun deepest) :
    kit.Opens (id :: ids) before deepest := by
  have hlater (later : Nat) (hmem : later ∈ ids) : later ≠ id ∧ later ∉ kit.issued before := by
    have hfresh := hopens.fresh later hmem
    rwa [hbegins.issued, List.mem_cons, not_or] at hfresh
  constructor
  · exact List.nodup_cons.mpr ⟨fun hmem => (hlater id hmem).1 rfl, hopens.nodup⟩
  · exact List.forall_mem_cons.mpr ⟨hbegins.fresh, fun later hmem => (hlater later hmem).2⟩
  · rw [hopens.issued, hbegins.issued, List.reverse_cons, List.append_assoc]
    rfl
  · rw [List.map_cons, List.getLast?_cons_cons, ← hbegins.current]
    exact hopens.current
  · rw [hopens.finished, hbegins.finished]

/-- A nest is opened the same way whatever the work inside it is. -/
theorem Documented.nest (hdocumented : kit.Documented) (openings : List Opening) (state : σ) :
    ∃ ids deepest, List.length ids = openings.length ∧ kit.Opens ids state deepest ∧
      ∀ {ε α : Type} (fault : ε → Fault) (work : Work σ ε α),
        ∃ last, Trace.nest kit fault openings work state = ((work deepest).1, last) ∧
          (openings ≠ [] → kit.current last = kit.current state) ∧
          kit.Ends
            (kit.nested openings ids (kit.current state)
              (Fault.ofResult? fault (work deepest).1)).reverse
            (work deepest).2 last := by
  induction openings generalizing state with
  | nil =>
      exact ⟨[], state, rfl, .nil state, fun _ work =>
        ⟨_, rfl, fun h => absurd rfl h, rfl, (List.append_nil _).symm⟩⟩
  | cons opening openings ih =>
      obtain ⟨id, begun, hbegins, hends⟩ := hdocumented opening.name opening.attributes state
      obtain ⟨ids, deepest, hlength, hopens, hnest⟩ := ih begun
      refine ⟨id :: ids, deepest, congrArg Nat.succ hlength, .cons hbegins hopens,
        fun fault work => ?_⟩
      obtain ⟨last, hrest, -, hclosed⟩ := hnest fault work
      obtain ⟨after, hwithin, hcurrent, hended⟩ :=
        hends fault (Trace.nest kit fault openings work)
      rw [hrest] at hwithin hended
      refine ⟨after, ?_, fun _ => hcurrent, ?_, ?_⟩
      · rw [← hwithin, ← opening.around_eq]
        rfl
      · rw [hended.issued, hclosed.issued]
      · rw [hended.finished, hclosed.finished, hbegins.current, List.append_assoc, nested, nested,
          List.map_cons, List.zip_cons_cons, List.zip_cons_cons, List.map_cons, List.reverse_cons]

end Kit

/-- Each span has the next outer one as its parent, and they end from the innermost to the outermost
after what ended inside them. A fault that the work raises is the status and the only event of every
span, and is what comes out of the nest. Each span has its own name, and of its own attributes those
that spans keep. -/
theorem nested_spans {kit : Kit σ} (hdocumented : kit.Documented) (openings : List Opening)
    (state : σ) :
    ∃ (ids : List Nat) (deepest : σ), ids.length = openings.length ∧ ids.Nodup ∧
      (∀ id ∈ ids, id ∉ kit.issued state) ∧
      kit.issued deepest = ids.reverse ++ kit.issued state ∧
      kit.finished deepest = kit.finished state ∧
      let outers := kit.current state :: ids.map some
      outers.getLast? = some (kit.current deepest) ∧
      ∀ {ε α : Type} (fault : ε → Fault) (work : Work σ ε α),
        let (result, inner) := work deepest
        let raised := Fault.ofResult? fault result
        let spans := (openings.zip (ids.zip outers)).map fun (opening, id, outer) =>
          { id := id, parent := outer, name := opening.name
            attributes := kit.keep opening.attributes
            status := raised, events := raised.toList : Span }
        ∃ last, nest kit fault openings work state = (result, last) ∧
          kit.issued last = kit.issued inner ∧
          (openings ≠ [] → kit.current last = kit.current state) ∧
          kit.finished last = kit.finished inner ++ spans.reverse ∧
          ∀ span ∈ spans, span.status.map Fault.description =
            raised.map fun fault => fault.title ++ ": " ++ fault.message := by
  obtain ⟨ids, deepest, hlength, hopens, hnest⟩ := hdocumented.nest openings state
  refine ⟨ids, deepest, hlength, hopens.nodup, hopens.fresh, hopens.issued, hopens.finished,
    hopens.current, fun fault work => ?_⟩
  obtain ⟨last, hlast, hcurrent, hends⟩ := hnest fault work
  refine ⟨last, hlast, hends.issued, hcurrent, hends.finished, fun span hspan => ?_⟩
  obtain ⟨⟨opening, id, outer⟩, -, rfl⟩ := List.mem_map.mp hspan
  rfl

/-- A fault inside two spans that look the same. -/
theorem nested_spans_of_same_names :
    let kit : Kit Recorder := .ofRecorder id id id
    let openings : List Opening := [.named "s" [], .named "s" []]
    let fault : Fault := { title := "ValueError", message := "x" }
    let work : Work Recorder Fault Unit := fun inner => (.error fault, inner)
    kit.Documented ∧ ∃ last, nest kit id openings work {} = (.error fault, last) ∧
      last.current = none ∧
      last.finished.map (fun span => (span.id, span.parent)) = [(1, some 0), (0, none)] ∧
      last.finished.map Span.events = [[fault], [fault]] := by
  intro kit openings fault work
  have hdocumented : kit.Documented := Kit.documented_ofRecorder id fun _ _ => rfl
  obtain ⟨ids, deepest, -, -, -, -, -, -, hnest⟩ := nested_spans hdocumented openings {}
  obtain ⟨last, hlast, -, hcurrent, -⟩ := hnest id work
  refine ⟨hdocumented, last, hlast, hcurrent (List.cons_ne_nil _ _), ?_⟩
  obtain rfl : (nest kit id openings work {}).2 = last := congrArg Prod.snd hlast
  exact ⟨rfl, rfl⟩

/-- A span does not end with an attribute that spans do not keep. -/
theorem nest_leaves_out_unnamed :
    let keep : List (String × Json) → List (String × Json) :=
      List.filter fun member => member.1 ≠ ""
    let kit : Kit Recorder := .ofRecorder id id keep
    let opening : Opening := .named "s" [("", .int 1)]
    let work : Work Recorder Fault Unit := fun inner => (.ok (), inner)
    kit.Documented ∧
      (nest kit id [opening] work {}).2.finished.map Span.attributes = [[]] ∧
      opening.attributes ≠ [] := by
  intro keep kit opening work
  exact ⟨Kit.documented_ofRecorder keep fun _ _ => rfl, rfl, List.cons_ne_nil _ _⟩

end RowStore.Trace
