namespace RowStore

variable {ε ε' α β : Type}

theorem bind_eq_ok_iff {first : Except ε α} {next : α → Except ε β} {result : β} :
    first >>= next = .ok result ↔ ∃ value, first = .ok value ∧ next value = .ok result := by
  cases first with
  | error fault => exact ⟨fun h => by contradiction, fun ⟨_, h, _⟩ => by contradiction⟩
  | ok value => exact ⟨fun h => ⟨value, rfl, h⟩, fun ⟨_, h, hnext⟩ => by cases h; exact hnext⟩

theorem then_eq_ok_iff {first : Except ε Unit} {next : Except ε β} {result : β} :
    (first >>= fun _ => next) = .ok result ↔ first = .ok () ∧ next = .ok result :=
  bind_eq_ok_iff.trans ⟨fun ⟨(), hfirst, hnext⟩ => ⟨hfirst, hnext⟩,
    fun ⟨hfirst, hnext⟩ => ⟨(), hfirst, hnext⟩⟩

theorem map_eq_ok_iff {first : Except ε α} {f : α → β} {result : β} :
    first.map f = .ok result ↔ ∃ value, first = .ok value ∧ f value = result := by
  cases first with
  | error fault => exact ⟨fun h => by contradiction, fun ⟨_, h, _⟩ => by contradiction⟩
  | ok value =>
      exact ⟨fun h => ⟨value, rfl, Except.ok.inj h⟩,
        fun ⟨_, h, hresult⟩ => by cases h; exact congrArg _ hresult⟩

theorem mapError_eq_ok_iff {first : Except ε α} {f : ε → ε'} {result : α} :
    first.mapError f = .ok result ↔ first = .ok result := by
  cases first with
  | error fault => exact ⟨fun h => by contradiction, fun h => by contradiction⟩
  | ok value => exact ⟨fun h => congrArg _ (Except.ok.inj h), fun h => congrArg _ (Except.ok.inj h)⟩

theorem mapM_eq_ok_of_map_eq {f : α → Except ε β} {list : List α} {results : List β}
    (hmap : list.map f = results.map .ok) : list.mapM f = .ok results :=
  calc list.mapM f
      = (list.map f).mapM id := by rw [List.mapM_map]; rfl
    _ = results.mapM (fun result => pure result) := by rw [hmap, List.mapM_map]; rfl
    _ = .ok results := List.mapM_pure.trans (congrArg _ (List.map_id' results))

theorem mapM_eq_ok_iff {f : α → Except ε β} {result : α → β} {holds : α → Prop} {list : List α}
    (hstep : ∀ value ∈ list, ∀ written,
      f value = .ok written ↔ holds value ∧ written = result value)
    {written : List β} :
    list.mapM f = .ok written ↔ (∀ value ∈ list, holds value) ∧ written = list.map result := by
  induction list generalizing written with
  | nil =>
      rw [List.mapM_nil, List.map_nil]
      exact ⟨fun h => ⟨by simp, (Except.ok.inj h).symm⟩, fun ⟨_, h⟩ => h ▸ rfl⟩
  | cons value list ih =>
      rw [List.forall_mem_cons] at hstep
      simp only [List.mapM_cons, bind_eq_ok_iff, hstep.1, ih hstep.2, List.forall_mem_cons,
        List.map_cons]
      constructor
      · rintro ⟨_, ⟨hvalue, rfl⟩, _, ⟨hlist, rfl⟩, hwritten⟩
        exact ⟨⟨hvalue, hlist⟩, (Except.ok.inj hwritten).symm⟩
      · rintro ⟨⟨hvalue, hlist⟩, rfl⟩
        exact ⟨_, ⟨hvalue, rfl⟩, _, ⟨hlist, rfl⟩, rfl⟩

end RowStore
