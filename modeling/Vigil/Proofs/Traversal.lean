import Mathlib.Data.List.TakeWhile

/-!
# Reading and cutting lists

A list is read as a whole or not at all: the reading succeeds exactly when every entry is
read, and it fails with the first entry that is refused. A list that is cut at some entries
has none of them in its parts.
-/

namespace Vigil

variable {ε α β : Type}

/-- A list is read when each of its entries is, and the results stand in its order. -/
theorem mapM_eq_ok_iff (f : α → Except ε β) (xs : List α) (ys : List β) :
    xs.mapM f = .ok ys ↔ xs.map f = ys.map .ok := by
  induction xs generalizing ys with
  | nil => cases ys <;> simp [pure, Except.pure]
  | cons x rest ih =>
    rw [List.mapM_cons]
    cases head : f x with
    | error e => cases ys <;> simp [head, bind, Except.bind]
    | ok y =>
      cases tail : rest.mapM f with
      | error e =>
        cases ys with
        | nil => simp [bind, Except.bind]
        | cons z zs =>
          have unread : rest.map f ≠ zs.map .ok := fun read => by
            simp [(ih zs).2 read] at tail
          simp [head, unread, bind, Except.bind]
      | ok read =>
        have first := (ih read).1 tail
        cases ys with
        | nil => simp [bind, Except.bind, pure, Except.pure]
        | cons z zs =>
          have same : rest.map f = zs.map .ok ↔ read = zs := by
            rw [← ih zs, tail, Except.ok.injEq]
          simp [head, same, bind, Except.bind, pure, Except.pure]

/-- So it is where a refusal gives no reason. -/
theorem mapM_eq_some_iff (f : α → Option β) (xs : List α) (ys : List β) :
    xs.mapM f = some ys ↔ xs.map f = ys.map some := by
  induction xs generalizing ys with
  | nil => cases ys <;> simp
  | cons x rest ih =>
    rw [List.mapM_cons]
    cases ys with
    | nil => simp [Option.bind_eq_some_iff]
    | cons y others => simp [Option.bind_eq_some_iff, ih]

/-- The refusal is that of the first entry that is refused. -/
theorem mapM_eq_error_iff_first (f : α → Except ε β) (xs : List α) (e : ε) :
    xs.mapM f = .error e ↔ ∃ before x after, xs = before ++ x :: after ∧
      (∀ earlier ∈ before, ∃ y, f earlier = .ok y) ∧ f x = .error e := by
  constructor
  · intro refused
    induction xs with
    | nil => cases refused
    | cons x rest ih =>
      rw [List.mapM_cons] at refused
      cases head : f x with
      | error fault =>
        have same : fault = e := by simpa [head, bind, Except.bind] using refused
        exact ⟨[], x, rest, rfl, by simp, by rw [head, same]⟩
      | ok y =>
        cases tail : rest.mapM f with
        | ok read => simp [head, tail, bind, Except.bind, pure, Except.pure] at refused
        | error fault =>
          have same : fault = e := by simpa [head, tail, bind, Except.bind] using refused
          obtain ⟨before, later, after, split, read, wrong⟩ := ih (by rw [tail, same])
          refine ⟨x :: before, later, after, by rw [split, List.cons_append], ?_, wrong⟩
          intro earlier member
          rcases List.mem_cons.1 member with rfl | among
          · exact ⟨y, head⟩
          · exact read earlier among
  · rintro ⟨before, x, after, rfl, read, wrong⟩
    induction before with
    | nil => simp [wrong, bind, Except.bind]
    | cons y earlier ih =>
      obtain ⟨result, head⟩ := read y List.mem_cons_self
      have later := ih fun z member => read z (List.mem_cons_of_mem y member)
      rw [List.cons_append, List.mapM_cons, head, later]
      rfl

/-- A list is refused when one of its entries is. -/
theorem mapM_eq_error_iff (f : α → Except ε β) (xs : List α) :
    (∃ e, xs.mapM f = .error e) ↔ ∃ x ∈ xs, ∃ e, f x = .error e := by
  constructor
  · rintro ⟨e, refused⟩
    obtain ⟨before, x, after, rfl, -, wrong⟩ := (mapM_eq_error_iff_first f xs e).1 refused
    exact ⟨x, by simp, e, wrong⟩
  · rintro ⟨x, member, e, wrong⟩
    cases whole : xs.mapM f with
    | error fault => exact ⟨fault, rfl⟩
    | ok ys =>
      have each := (mapM_eq_ok_iff f xs ys).1 whole
      have among : f x ∈ ys.map Except.ok := each ▸ List.mem_map_of_mem member
      obtain ⟨y, _, read⟩ := List.mem_map.1 among
      rw [wrong] at read
      cases read

/-- Rewording a reason accepts nothing more and nothing less. -/
theorem mapError_eq_ok_iff {δ : Type} {x : Except ε β} {g : ε → δ} {y : β} :
    x.mapError g = .ok y ↔ x = .ok y := by
  cases x <;> simp [Except.mapError]

/-- Forgetting the reason accepts nothing more and nothing less. -/
theorem toOption_eq_some_iff {x : Except ε β} {y : β} : x.toOption = some y ↔ x = .ok y := by
  cases x <;> simp [Except.toOption]

/-- What is not refused has a result. -/
theorem exists_eq_ok {x : Except ε β} (accepted : x.isOk = true) : ∃ y, x = .ok y := by
  cases x with
  | error e => cases accepted
  | ok y => exact ⟨y, rfl⟩

/-- Reasons may be reworded for the whole list or for each entry. -/
theorem mapError_mapM {δ : Type} (f : α → Except ε β) (g : ε → δ) (xs : List α) :
    (xs.mapM f).mapError g = xs.mapM fun x => (f x).mapError g := by
  induction xs with
  | nil => rfl
  | cons x rest ih =>
    rw [List.mapM_cons, List.mapM_cons, ← ih]
    cases f x with
    | error e => rfl
    | ok y => cases rest.mapM f <;> rfl

/-- A list that is read can be read in every other order, and the results are the same but for
their order. -/
theorem exists_perm_of_mapM {f : α → Except ε β} {xs others : List α} {ys : List β}
    (order : others.Perm xs) (read : xs.mapM f = .ok ys) :
    ∃ zs, others.mapM f = .ok zs ∧ zs.Perm ys := by
  have each := (mapM_eq_ok_iff f xs ys).1 read
  cases whole : others.mapM f with
  | error e =>
    obtain ⟨x, member, fault, refused⟩ := (mapM_eq_error_iff f others).1 ⟨e, whole⟩
    obtain ⟨reason, failed⟩ :=
      (mapM_eq_error_iff f xs).2 ⟨x, order.mem_iff.1 member, fault, refused⟩
    rw [read] at failed
    cases failed
  | ok zs =>
    have results : ∀ results : List β,
        (results.map (Except.ok (ε := ε))).filterMap Except.toOption = results := by
      intro results
      rw [List.filterMap_map]
      exact List.filterMap_some
    have mapped := (order.map f).filterMap Except.toOption
    rw [each, (mapM_eq_ok_iff f others zs).1 whole, results, results] at mapped
    exact ⟨zs, rfl, mapped⟩

/-- The parts between the entries at which a list is cut hold no such entry. -/
theorem not_of_mem_splitOnP (cuts : α → Bool) (xs : List α) :
    ∀ part ∈ xs.splitOnP cuts, ∀ x ∈ part, cuts x = false := by
  induction xs with
  | nil => simp
  | cons x rest ih =>
    rw [List.splitOnP_cons_eq_if_modifyHead]
    cases cut : cuts x with
    | true => simpa using ih
    | false =>
      obtain ⟨part, parts, split⟩ := List.exists_cons_of_ne_nil (List.splitOnP_ne_nil cuts rest)
      rw [split] at ih ⊢
      simpa [cut] using ih

/-- Entries in front are found again where the rest does not go on with such entries. -/
theorem takeWhile_append_of_all {p : α → Bool} {front rest : List α}
    (all : ∀ x ∈ front, p x = true) (stops : rest.takeWhile p = []) :
    (front ++ rest).takeWhile p = front := by
  rw [List.takeWhile_append_of_pos all, stops, List.append_nil]

/-- And so is the rest. -/
theorem dropWhile_append_of_all {p : α → Bool} {front rest : List α}
    (all : ∀ x ∈ front, p x = true) (stops : rest.takeWhile p = []) :
    (front ++ rest).dropWhile p = rest := by
  have parts := List.takeWhile_append_dropWhile (p := p) (l := front ++ rest)
  rw [takeWhile_append_of_all all stops] at parts
  exact List.append_cancel_left parts

end Vigil
