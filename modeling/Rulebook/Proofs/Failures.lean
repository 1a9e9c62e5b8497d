import Rulebook.Action

/-! Which errors a computation can end with, and what the success of a sequence
says about its parts. -/
namespace Rulebook

/-- Whatever error a computation ends with, if any, is one of these. -/
def FailsOnly (allowed : ε → Prop) (result : Except ε α) : Prop :=
  ∀ error, result = .error error → allowed error

theorem failsOnly_ok {allowed : ε → Prop} (value : α) : FailsOnly allowed (.ok value) := nofun

theorem failsOnly_of_eq_ok {allowed : ε → Prop} {result : Except ε α} {value : α}
    (ended : result = .ok value) : FailsOnly allowed result := by
  rw [ended]
  exact failsOnly_ok value

theorem failsOnly_error {allowed : ε → Prop} {error : ε} (one : allowed error) :
    FailsOnly allowed (.error error : Except ε α) := by
  rintro _ ⟨⟩
  exact one

theorem FailsOnly.imp {allowed permitted : ε → Prop} {result : Except ε α}
    (fails : FailsOnly allowed result) (weaker : ∀ error, allowed error → permitted error) :
    FailsOnly permitted result :=
  fun error ended => weaker error (fails error ended)

theorem failsOnly_bind {allowed : ε → Prop} {result : Except ε α} {next : α → Except ε β}
    (first : FailsOnly allowed result)
    (rest : ∀ value, result = .ok value → FailsOnly allowed (next value)) :
    FailsOnly allowed (result >>= next) := by
  cases result with
  | error error => exact failsOnly_error (first error rfl)
  | ok value => exact rest value rfl

theorem failsOnly_map {allowed : ε → Prop} {result : Except ε α} {change : α → β}
    (first : FailsOnly allowed result) : FailsOnly allowed (result.map change) := by
  cases result with
  | error error => exact failsOnly_error (first error rfl)
  | ok value => exact failsOnly_ok _

theorem failsOnly_mapError {allowed : ε → Prop} {permitted : δ → Prop} {result : Except ε α}
    {wrap : ε → δ} (first : FailsOnly allowed result)
    (wraps : ∀ error, allowed error → permitted (wrap error)) :
    FailsOnly permitted (result.mapError wrap) := by
  cases result with
  | error error => exact failsOnly_error (wraps error (first error rfl))
  | ok value => exact failsOnly_ok value

theorem bind_eq_ok_iff {result : Except ε α} {next : α → Except ε β} {value : β} :
    result >>= next = .ok value ↔ ∃ first, result = .ok first ∧ next first = .ok value := by
  cases result with
  | error error => exact ⟨nofun, nofun⟩
  | ok first => exact ⟨fun ended => ⟨first, rfl, ended⟩, fun ⟨_, rfl, ended⟩ => ended⟩

/-- A sequence fails in its first part or in what follows. -/
theorem bind_eq_error_iff {result : Except ε α} {next : α → Except ε β} {error : ε} :
    result >>= next = .error error ↔
      result = .error error ∨ ∃ first, result = .ok first ∧ next first = .error error := by
  cases result with
  | error reason =>
    constructor
    · intro failed
      cases failed
      exact .inl rfl
    · rintro (failed | ⟨_, ended, _⟩)
      · cases failed
        rfl
      · cases ended
  | ok first =>
    exact ⟨fun failed => .inr ⟨first, rfl, failed⟩,
      fun | .inr ⟨_, rfl, failed⟩ => failed⟩

theorem mapError_eq_ok_iff {result : Except ε α} {wrap : ε → δ} {value : α} :
    result.mapError wrap = .ok value ↔ result = .ok value := by
  cases result with
  | error error => exact ⟨nofun, nofun⟩
  | ok first =>
    exact ⟨fun ended => congrArg Except.ok (Except.ok.inj ended),
      fun ended => congrArg Except.ok (Except.ok.inj ended)⟩

/-- A check of a list succeeds when it succeeds for every member. -/
theorem forM_eq_ok_iff {check : α → Except ε PUnit} {list : List α} :
    list.forM check = .ok ⟨⟩ ↔ ∀ member ∈ list, check member = .ok ⟨⟩ := by
  induction list with
  | nil => exact ⟨nofun, fun _ => rfl⟩
  | cons head rest ih =>
    change (check head >>= fun _ => rest.forM check) = .ok ⟨⟩ ↔ _
    rw [bind_eq_ok_iff, List.forall_mem_cons, ← ih]
    exact ⟨fun ⟨_, checked, others⟩ => ⟨checked, others⟩,
      fun ⟨checked, others⟩ => ⟨_, checked, others⟩⟩

/-- The first member of a list that a check turns down has this error. -/
def RejectsFirst (check : α → Except ε PUnit) (list : List α) (error : ε) : Prop :=
  ∃ before member after, list = before ++ member :: after ∧
    (∀ earlier ∈ before, check earlier = .ok ⟨⟩) ∧ check member = .error error

/-- A check of a list fails like that of the first member it turns down. -/
theorem forM_eq_error_iff {check : α → Except ε PUnit} {list : List α} {error : ε} :
    list.forM check = .error error ↔ RejectsFirst check list error := by
  induction list with
  | nil =>
    constructor
    · nofun
    · rintro ⟨before, member, after, split, -⟩
      cases before <;> cases split
  | cons head rest ih =>
    change (check head >>= fun _ => rest.forM check) = .error error ↔ _
    rw [bind_eq_error_iff]
    constructor
    · rintro (failed | ⟨_, checked, others⟩)
      · exact ⟨[], head, rest, rfl, nofun, failed⟩
      · obtain ⟨before, member, after, rfl, earlier, failed⟩ := ih.mp others
        exact ⟨head :: before, member, after, rfl, List.forall_mem_cons.mpr ⟨checked, earlier⟩,
          failed⟩
    · rintro ⟨before, member, after, split, earlier, failed⟩
      cases before with
      | nil =>
        cases split
        exact .inl failed
      | cons first before =>
        cases split
        obtain ⟨checked, earlier⟩ := List.forall_mem_cons.mp earlier
        exact .inr ⟨_, checked, ih.mpr ⟨before, member, after, rfl, earlier, failed⟩⟩

/-- An action fails like its first part or like what follows. -/
theorem Action.failsOnly_bind {allowed : RuleError → Prop} {action : Action α}
    {next : α → Action β} {store : Store} (first : FailsOnly allowed (action store).result)
    (rest : ∀ value, (action store).result = .ok value →
      FailsOnly allowed (next value (action store).store).result) :
    FailsOnly allowed ((action >>= next) store).result := by
  rw [bind_apply]
  rcases same : action store with ⟨error | value, between, events⟩
  · rw [same] at first
    exact failsOnly_error (first error rfl)
  · rw [same] at rest
    exact rest value rfl

theorem Action.bind_eq_ok {action : Action α} {next : α → Action β} {store : Store} {value : β}
    (ended : ((action >>= next) store).result = .ok value) :
    ∃ first, (action store).result = .ok first ∧
      (next first (action store).store).result = .ok value := by
  rw [bind_apply] at ended
  rcases same : action store with ⟨error | first, between, events⟩
  · rw [same] at ended
    cases ended
  · rw [same] at ended
    exact ⟨first, rfl, ended⟩

end Rulebook
