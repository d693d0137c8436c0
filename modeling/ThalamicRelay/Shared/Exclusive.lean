import Mathlib.Data.List.Basic

set_option autoImplicit false

namespace Exclusive

universe u

variable {Party : Type u}

def Guards (holds : Party → Bool) (flag : Bool) (parties : List Party) : Prop :=
  parties.countP holds = flag.toNat

variable {holds : Party → Bool} {flag : Bool} {parties : List Party}

theorem Guards.nil : Guards holds false [] := rfl

theorem Guards.le_one (guards : Guards holds flag parties) : parties.countP holds ≤ 1 := by
  rw [guards]
  exact Bool.toNat_le flag

theorem Guards.flag_iff (guards : Guards holds flag parties) :
    flag = true ↔ 0 < parties.countP holds := by
  rw [guards]
  cases flag <;> decide

theorem Guards.enroll {party : Party} (guards : Guards holds false parties)
    (member : holds party = true) : Guards holds true (parties ++ [party]) := by
  simp only [Guards] at guards ⊢
  rw [List.countP_append, guards, List.countP_singleton, if_pos member]
  rfl

theorem getElem?_lt {index : Nat} {party : Party} (member : parties[index]? = some party) :
    ∃ bound : index < parties.length, parties[index] = party :=
  List.getElem?_eq_some_iff.mp member

theorem holder_counted {index : Nat} {party : Party} (member : parties[index]? = some party)
    (held : holds party = true) : 0 < parties.countP holds :=
  List.countP_pos_iff.mpr ⟨party, List.mem_of_getElem? member, held⟩

theorem Guards.held {index : Nat} {party : Party} (guards : Guards holds flag parties)
    (member : parties[index]? = some party) (held : holds party = true) : flag = true :=
  guards.flag_iff.mpr (holder_counted member held)

theorem Guards.replace {index : Nat} {before after : Party} (guards : Guards holds flag parties)
    (member : parties[index]? = some before) (same : holds after = holds before) :
    Guards holds flag (parties.set index after) := by
  obtain ⟨bound, rfl⟩ := getElem?_lt member
  simp only [Guards] at guards ⊢
  rw [List.countP_set bound, guards, same]
  by_cases held : holds parties[index] = true
  · have counted := holder_counted member held
    simp only [held, if_true]
    omega
  · simp [held]

theorem Guards.release {index : Nat} {before after : Party} (guards : Guards holds flag parties)
    (member : parties[index]? = some before) (held : holds before = true)
    (freed : holds after = false) : Guards holds false (parties.set index after) := by
  obtain ⟨bound, rfl⟩ := getElem?_lt member
  have single := guards.le_one
  simp only [Guards] at guards ⊢
  rw [List.countP_set bound, if_pos held, freed]
  simp only [Bool.toNat_false, Bool.false_eq_true, if_false]
  omega

theorem Guards.unique (guards : Guards holds flag parties) {first second : Nat} {a b : Party}
    (here : parties[first]? = some a) (there : parties[second]? = some b)
    (heldHere : holds a = true) (heldThere : holds b = true) : first = second := by
  have single := guards.le_one
  clear guards
  induction parties generalizing first second with
  | nil => simp at here
  | cons party rest ih =>
    rw [List.countP_cons] at single
    cases first with
    | zero =>
      cases second with
      | zero => rfl
      | succ second =>
        simp only [List.getElem?_cons_zero, Option.some.injEq, List.getElem?_cons_succ]
          at here there
        have counted := holder_counted there heldThere
        simp only [here, heldHere, if_true] at single
        omega
    | succ first =>
      simp only [List.getElem?_cons_succ] at here
      cases second with
      | zero =>
        have counted := holder_counted here heldHere
        simp only [List.getElem?_cons_zero, Option.some.injEq] at there
        simp only [there, heldThere, if_true] at single
        omega
      | succ second =>
        simp only [List.getElem?_cons_succ] at there
        rw [ih here there (by omega)]

end Exclusive
