import LookoutVision.Tables

/-!
# Objects on a heap, and who owns them

A heap of objects of one type, with `new` and `delete` and what a program can do
wrong with them: read or write through `NULL` or to an object that is gone,
delete an object twice.  Addresses are handed out in order and never again.

`Partitioned` is the ownership discipline: every object on the heap is held by
exactly one of some holders.  Each operation has one lemma that says what it
does to the discipline, and where no holder holds anything the heap is empty.
-/

/-- Objects by address; from `next` on, no address was handed out. -/
structure OwnedHeap (Object : Type) where
  object : Nat → Option Object
  next : Nat
  unused : ∀ a, next ≤ a → object a = none

namespace OwnedHeap

inductive Fault
  | nullDereference
  | dangling
  | doubleDelete
deriving DecidableEq, Repr

variable {Object : Type}

def empty : OwnedHeap Object := ⟨fun _ => none, 0, fun _ _ => rfl⟩

variable (h : OwnedHeap Object)

/-- Only addresses handed out have objects. -/
theorem lt_next {h : OwnedHeap Object} {a : Nat} (ha : h.object a ≠ none) : a < h.next := by
  by_contra hle
  exact ha (h.unused a (Nat.not_lt.mp hle))

/-- The heap with another object, or none, at an address that was handed out. -/
def put (a : Nat) (x : Option Object) (ha : a < h.next) : OwnedHeap Object where
  object := Function.update h.object a x
  next := h.next
  unused := by
    intro b hb
    rw [Function.update_of_ne (by omega)]
    exact h.unused b hb

/-- `new`. -/
def new (x : Object) : OwnedHeap Object × Nat :=
  ({ object := Function.update h.object h.next (some x)
     next := h.next + 1
     unused := by
       intro b hb
       rw [Function.update_of_ne (by omega)]
       exact h.unused b (by omega) }, h.next)

/-- Read what a pointer points to. -/
def read : Option Nat → Except Fault Object
  | none => .error .nullDereference
  | some a =>
      match h.object a with
      | none => .error .dangling
      | some x => .ok x

/-- Assign to what a pointer points to. -/
def write (p : Option Nat) (x : Object) : Except Fault (OwnedHeap Object) :=
  match p with
  | none => .error .nullDereference
  | some a =>
      match ha : h.object a with
      | none => .error .dangling
      | some _ => .ok (h.put a (some x) (lt_next (by rw [ha]; exact Option.some_ne_none _)))

/-- `delete`; deleting `NULL` does nothing. -/
def delete : Option Nat → Except Fault (OwnedHeap Object)
  | none => .ok h
  | some a =>
      match ha : h.object a with
      | none => .error .doubleDelete
      | some _ => .ok (h.put a none (lt_next (by rw [ha]; exact Option.some_ne_none _)))

/-! ## What each operation does -/

variable {h : OwnedHeap Object} {a b : Nat} {x y : Object}

@[simp] theorem object_put_self (z : Option Object) (ha : a < h.next) :
    (h.put a z ha).object a = z :=
  Function.update_self ..

theorem object_put_of_ne (z : Option Object) (ha : a < h.next) (hne : b ≠ a) :
    (h.put a z ha).object b = h.object b :=
  Function.update_of_ne hne ..

@[simp] theorem object_new_self : (h.new x).1.object h.next = some x :=
  Function.update_self ..

theorem object_new_of_ne (hne : b ≠ h.next) : (h.new x).1.object b = h.object b :=
  Function.update_of_ne hne ..

/-- Assigning to what was just created is creating it so. -/
theorem put_new (hlt : h.next < (h.new x).1.next) :
    (h.new x).1.put h.next (some y) hlt = (h.new y).1 := by
  simp only [put, new, Function.update_idem]

theorem read_of_object (ha : h.object a = some x) : h.read (some a) = .ok x := by
  simp only [read, ha]

theorem write_of_object (ha : h.object a = some x) :
    ∃ hlt, h.write (some a) y = .ok (h.put a (some y) hlt) := by
  refine ⟨lt_next (by rw [ha]; exact Option.some_ne_none _), ?_⟩
  unfold write
  split
  · rename_i hnone
    cases hnone
  · rename_i hsome
    obtain rfl := Option.some.inj hsome
    split
    · rename_i hnone
      rw [ha] at hnone
      cases hnone
    · rfl

theorem delete_of_object (ha : h.object a = some x) :
    ∃ hlt, h.delete (some a) = .ok (h.put a none hlt) := by
  refine ⟨lt_next (by rw [ha]; exact Option.some_ne_none _), ?_⟩
  unfold delete
  split
  · rename_i hnone
    cases hnone
  · rename_i hsome
    obtain rfl := Option.some.inj hsome
    split
    · rename_i hnone
      rw [ha] at hnone
      cases hnone
    · rfl

/-- What can be read is what is there. -/
theorem read_ok_iff : (∃ x, h.read (some a) = .ok x) ↔ h.object a ≠ none := by
  cases ha : h.object a with
  | none =>
    simp only [read, ha]
    exact ⟨fun ⟨_, hx⟩ => (by cases hx), fun hne => absurd rfl hne⟩
  | some x => exact ⟨fun _ => Option.some_ne_none x, fun _ => ⟨x, read_of_object ha⟩⟩

/-- What can be deleted is `NULL` or what is there. -/
theorem delete_ok_iff {p : Option Nat} :
    (∃ h', h.delete p = .ok h') ↔ ∀ a, p = some a → h.object a ≠ none := by
  cases p with
  | none => exact ⟨fun _ a ha => (by cases ha), fun _ => ⟨h, rfl⟩⟩
  | some a =>
    constructor
    · rintro ⟨h', hdelete⟩ b hb hnone
      obtain rfl := Option.some.inj hb
      unfold delete at hdelete
      split at hdelete
      · rename_i hp
        cases hp
      · rename_i hp
        obtain rfl := Option.some.inj hp
        split at hdelete
        · cases hdelete
        · rename_i hsome
          rw [hnone] at hsome
          cases hsome
    · intro hlive
      obtain ⟨x, hx⟩ := Option.ne_none_iff_exists'.mp (hlive a rfl)
      obtain ⟨hlt, hdelete⟩ := delete_of_object hx
      exact ⟨_, hdelete⟩

/-- A delete takes what is pointed to and nothing else. -/
theorem delete_inv {h' : OwnedHeap Object} {p : Option Nat} (hdelete : h.delete p = .ok h') :
    h'.next = h.next ∧ (∀ a, p = some a → h'.object a = none) ∧
      ∀ b, p ≠ some b → h'.object b = h.object b := by
  cases p with
  | none =>
    obtain rfl := Except.ok.inj hdelete
    exact ⟨rfl, fun a ha => (by cases ha), fun _ _ => rfl⟩
  | some a =>
    obtain ⟨x, hx⟩ := Option.ne_none_iff_exists'.mp (delete_ok_iff.mp ⟨h', hdelete⟩ a rfl)
    obtain ⟨hlt, hdelete'⟩ := delete_of_object hx
    obtain rfl := Except.ok.inj (hdelete.symm.trans hdelete')
    refine ⟨rfl, fun b hb => ?_, fun b hb => object_put_of_ne none hlt ?_⟩
    · obtain rfl := Option.some.inj hb
      exact object_put_self none hlt
    · rintro rfl
      exact hb rfl

/-! ## Ownership -/

/-- **Every object is held by exactly one holder**, and every holder that holds
anything holds an object. -/
structure Partitioned {Holder : Type} (h : OwnedHeap Object) (holds : Holder → Option Nat) :
    Prop where
  live : ∀ i a, holds i = some a → h.object a ≠ none
  unique : ∀ i j a, holds i = some a → holds j = some a → i = j
  held : ∀ a, h.object a ≠ none → ∃ i, holds i = some a

namespace Partitioned
variable {Holder : Type} {holds : Holder → Option Nat} {i : Holder}

theorem empty : Partitioned (.empty : OwnedHeap Object) (fun _ : Holder => none) where
  live := by
    intro i a h
    cases h
  unique := by
    intro i j a h
    cases h
  held := fun a h => absurd rfl h

/-- What a holder holds can be read. -/
theorem object_of_holds (hp : Partitioned h holds) (hi : holds i = some a) :
    ∃ x, h.object a = some x :=
  Option.ne_none_iff_exists'.mp (hp.live i a hi)

/-- **Where nobody holds anything, nothing is left.** -/
theorem object_eq_none (hp : Partitioned h holds) (hall : ∀ i, holds i = none) (a : Nat) :
    h.object a = none := by
  by_contra ha
  obtain ⟨i, hi⟩ := hp.held a ha
  rw [hall i] at hi
  cases hi

variable [DecidableEq Holder]

/-- **A new object** goes to somebody who held nothing. -/
theorem new (hp : Partitioned h holds) (hi : holds i = none) (x : Object) :
    Partitioned (h.new x).1 (Function.update holds i (some h.next)) where
  live := by
    intro j a hj
    rcases Table.update_eq_some hj with ⟨-, ⟨⟩⟩ | ⟨-, hj⟩
    · rw [object_new_self]
      exact Option.some_ne_none x
    · have hlive := hp.live j a hj
      rw [object_new_of_ne (Nat.ne_of_lt (lt_next hlive))]
      exact hlive
  unique := by
    intro j l a hj hl
    -- Whoever held something before holds something older.
    rcases Table.update_eq_some hj with ⟨hji, ha⟩ | ⟨-, hjold⟩ <;>
      rcases Table.update_eq_some hl with ⟨hli, ha'⟩ | ⟨-, hlold⟩
    · rw [hji, hli]
    · rw [← Option.some.inj ha] at hlold
      exact absurd (lt_next (hp.live l _ hlold)) (Nat.lt_irrefl _)
    · rw [← Option.some.inj ha'] at hjold
      exact absurd (lt_next (hp.live j _ hjold)) (Nat.lt_irrefl _)
    · exact hp.unique j l a hjold hlold
  held := by
    intro a ha
    by_cases hnew : a = h.next
    · exact ⟨i, by rw [hnew, Function.update_self]⟩
    · rw [object_new_of_ne hnew] at ha
      obtain ⟨j, hj⟩ := hp.held a ha
      have hji : j ≠ i := by
        rintro rfl
        rw [hi] at hj
        cases hj
      exact ⟨j, by rw [Function.update_of_ne hji]; exact hj⟩

/-- **A deleted object** is gone, and its holder holds nothing. -/
theorem put_none (hp : Partitioned h holds) (hi : holds i = some a) (hlt : a < h.next) :
    Partitioned (h.put a none hlt) (Function.update holds i none) where
  live := by
    intro j b hj
    obtain ⟨hji, hj⟩ := Table.update_none_eq_some hj
    have hba : b ≠ a := by
      rintro rfl
      exact hji (hp.unique j i b hj hi)
    rw [object_put_of_ne _ _ hba]
    exact hp.live j b hj
  unique := by
    intro j l b hj hl
    exact hp.unique j l b (Table.update_none_eq_some hj).2 (Table.update_none_eq_some hl).2
  held := by
    intro b hb
    have hba : b ≠ a := by
      rintro rfl
      exact hb (object_put_self none hlt)
    rw [object_put_of_ne _ _ hba] at hb
    obtain ⟨j, hj⟩ := hp.held b hb
    have hji : j ≠ i := by
      rintro rfl
      exact hba (Option.some.inj (hj.symm.trans hi))
    exact ⟨j, by rw [Function.update_of_ne hji]; exact hj⟩

end Partitioned

/-! ## What holders hold -/

section Contents
variable {Holder : Type} {holds : Holder → Option Nat} {i j : Holder}

/-- What each holder holds: an object, or nothing. -/
def contents (h : OwnedHeap Object) (holds : Holder → Option Nat) (i : Holder) : Option Object :=
  (holds i).bind h.object

/-- An object for a value, or `NULL`. -/
def newOf (h : OwnedHeap Object) : Option Object → OwnedHeap Object × Option Nat
  | none => (h, none)
  | some x => ((h.new x).1, some (h.new x).2)

/-- A copy of what a pointer points to; of `NULL`, `NULL`. -/
def dup (h : OwnedHeap Object) : Option Nat → Except Fault (OwnedHeap Object × Option Nat)
  | none => .ok (h, none)
  | some a =>
      match h.read (some a) with
      | .error fault => .error fault
      | .ok x => .ok (h.newOf (some x))

theorem eq_of_object {h h' : OwnedHeap Object} (hobject : h.object = h'.object)
    (hnext : h.next = h'.next) : h = h' := by
  cases h
  cases h'
  cases hobject
  cases hnext
  rfl

theorem contents_of_none (hi : holds i = none) : h.contents holds i = none := by
  rw [contents, hi, Option.bind_none]

theorem contents_of_some (hi : holds i = some a) : h.contents holds i = h.object a := by
  rw [contents, hi, Option.bind_some]

theorem read_of_contents (hx : h.contents holds i = some x) : h.read (holds i) = .ok x := by
  cases hi : holds i with
  | none =>
    rw [contents_of_none hi] at hx
    cases hx
  | some a =>
    rw [contents_of_some hi] at hx
    exact read_of_object hx

namespace Partitioned

/-- A holder holds nothing only where its pointer is `NULL`. -/
theorem contents_eq_none_iff (hp : Partitioned h holds) :
    h.contents holds i = none ↔ holds i = none := by
  cases hi : holds i with
  | none => exact ⟨fun _ => rfl, fun _ => contents_of_none hi⟩
  | some a =>
    rw [contents_of_some hi]
    exact ⟨fun hnone => absurd hnone (hp.live i a hi), fun hnone => by cases hnone⟩

/-- Assigning to what is held moves nothing. -/
theorem put_some (hp : Partitioned h holds) (hi : holds i = some a) (hlt : a < h.next) :
    Partitioned (h.put a (some x) hlt) holds where
  live := by
    intro j b hj
    by_cases hba : b = a
    · rw [hba, object_put_self]
      exact Option.some_ne_none x
    · rw [object_put_of_ne _ _ hba]
      exact hp.live j b hj
  unique := hp.unique
  held := by
    intro b hb
    by_cases hba : b = a
    · exact ⟨i, hba ▸ hi⟩
    · rw [object_put_of_ne _ _ hba] at hb
      exact hp.held b hb

/-- Nobody else notices. -/
theorem contents_put_of_ne (hp : Partitioned h holds) (hi : holds i = some a) (hlt : a < h.next)
    (z : Option Object) (hji : j ≠ i) : (h.put a z hlt).contents holds j = h.contents holds j := by
  cases hj : holds j with
  | none => rw [contents_of_none hj, contents_of_none hj]
  | some b =>
    have hba : b ≠ a := by
      rintro rfl
      exact hji (hp.unique j i b hj hi)
    rw [contents_of_some hj, contents_of_some hj, object_put_of_ne _ _ hba]

/-- **A copy** of what a holder holds. -/
theorem dup_ok (hp : Partitioned h holds) (j : Holder) :
    h.dup (holds j) = .ok (h.newOf (h.contents holds j)) := by
  cases hj : holds j with
  | none =>
    rw [contents_of_none hj]
    rfl
  | some b =>
    obtain ⟨x, hx⟩ := hp.object_of_holds hj
    rw [contents_of_some hj, hx]
    simp only [dup, read_of_object hx]

variable [DecidableEq Holder]

theorem contents_new (hp : Partitioned h holds) (i : Holder) (x : Object) :
    (h.new x).1.contents (Function.update holds i (some h.next)) =
      Function.update (h.contents holds) i (some x) := by
  funext j
  by_cases hji : j = i
  · rw [hji, contents_of_some (Function.update_self ..), object_new_self, Function.update_self]
  · rw [Function.update_of_ne hji, contents, Function.update_of_ne hji]
    cases hj : holds j with
    | none => rw [contents_of_none hj, Option.bind_none]
    | some b =>
      have hlt : b < h.next := lt_next (hp.live j b hj)
      rw [contents_of_some hj, Option.bind_some, object_new_of_ne (Nat.ne_of_lt hlt)]

theorem contents_put_none (hp : Partitioned h holds) (hi : holds i = some a) (hlt : a < h.next) :
    (h.put a none hlt).contents (Function.update holds i none) =
      Function.update (h.contents holds) i none := by
  funext j
  by_cases hji : j = i
  · rw [hji, contents_of_none (Function.update_self ..), Function.update_self]
  · rw [Function.update_of_ne hji, contents, Function.update_of_ne hji]
    exact hp.contents_put_of_ne hi hlt none hji

theorem contents_put_some (hp : Partitioned h holds) (hi : holds i = some a) (hlt : a < h.next) :
    (h.put a (some x) hlt).contents holds = Function.update (h.contents holds) i (some x) := by
  funext j
  by_cases hji : j = i
  · rw [hji, contents_of_some hi, object_put_self, Function.update_self]
  · rw [Function.update_of_ne hji]
    exact hp.contents_put_of_ne hi hlt (some x) hji

/-- **Freeing** what a holder holds, `NULL` included. -/
theorem delete_ok (hp : Partitioned h holds) (i : Holder) :
    ∃ h', h.delete (holds i) = .ok h' ∧ Partitioned h' (Function.update holds i none) ∧
      h'.contents (Function.update holds i none) = Function.update (h.contents holds) i none ∧
      h'.next = h.next := by
  cases hi : holds i with
  | none =>
    have hsame : Function.update holds i none = holds := by
      rw [← hi, Function.update_eq_self]
    have hkept : Function.update (h.contents holds) i none = h.contents holds := by
      rw [← contents_of_none (h := h) hi, Function.update_eq_self]
    rw [hsame, hkept]
    exact ⟨h, rfl, hp, rfl, rfl⟩
  | some a =>
    obtain ⟨x, hx⟩ := hp.object_of_holds hi
    obtain ⟨hlt, hdelete⟩ := delete_of_object hx
    exact ⟨h.put a none hlt, hdelete, hp.put_none hi hlt, hp.contents_put_none hi hlt, rfl⟩

/-- **An object**, or `NULL`, goes to somebody who held nothing. -/
theorem newOf_ok (hp : Partitioned h holds) (hi : holds i = none) (x : Option Object) :
    Partitioned (h.newOf x).1 (Function.update holds i (h.newOf x).2) ∧
      (h.newOf x).1.contents (Function.update holds i (h.newOf x).2) =
        Function.update (h.contents holds) i x := by
  cases x with
  | none =>
    show Partitioned h (Function.update holds i none) ∧
      h.contents (Function.update holds i none) = _
    have hsame : Function.update holds i none = holds := by
      rw [← hi, Function.update_eq_self]
    rw [hsame, ← contents_of_none (h := h) hi, Function.update_eq_self]
    exact ⟨hp, rfl⟩
  | some x => exact ⟨hp.new hi x, hp.contents_new i x⟩

/-- **Freed, then set** to a copy of what another holds. -/
theorem delete_dup_ok (hp : Partitioned h holds) (hij : j ≠ i) :
    ∃ h₁ h₂ p, h.delete (holds i) = .ok h₁ ∧ h₁.dup (holds j) = .ok (h₂, p) ∧
      Partitioned h₂ (Function.update holds i p) ∧ h₂.contents (Function.update holds i p) =
        Function.update (h.contents holds) i (h.contents holds j) := by
  obtain ⟨h₁, hdelete, hp₁, hcontents₁, -⟩ := hp.delete_ok i
  have hdup := hp₁.dup_ok j
  rw [hcontents₁, Function.update_of_ne hij, Function.update_of_ne hij] at hdup
  obtain ⟨hp₂, hcontents₂⟩ := hp₁.newOf_ok (Function.update_self ..) (h.contents holds j)
  rw [Function.update_idem] at hp₂ hcontents₂
  rw [hcontents₁, Function.update_idem] at hcontents₂
  exact ⟨h₁, _, _, hdelete, hdup, hp₂, hcontents₂⟩

/-- **Set, and the old object freed.** -/
theorem newOf_delete_ok (hp : Partitioned h holds) (i : Holder) (x : Option Object) :
    ∃ h', (h.newOf x).1.delete (holds i) = .ok h' ∧
      Partitioned h' (Function.update holds i (h.newOf x).2) ∧
      h'.contents (Function.update holds i (h.newOf x).2) =
        Function.update (h.contents holds) i x := by
  cases x with
  | none =>
    obtain ⟨h', hdelete, hp', hcontents, -⟩ := hp.delete_ok i
    exact ⟨h', hdelete, hp', hcontents⟩
  | some x =>
    cases hi : holds i with
    | none => exact ⟨_, rfl, hp.newOf_ok hi (some x)⟩
    | some a =>
      -- The new address is not the old one, so the order of the two does not matter.
      obtain ⟨y, hy⟩ := hp.object_of_holds hi
      have hlt : a < h.next := lt_next (hp.live i a hi)
      have hne : a ≠ h.next := Nat.ne_of_lt hlt
      have hy' : (h.new x).1.object a = some y := by
        rw [object_new_of_ne hne, hy]
      obtain ⟨hlt', hdelete⟩ := delete_of_object hy'
      obtain ⟨hp', hcontents⟩ :=
        (hp.put_none hi hlt).newOf_ok (Function.update_self ..) (some x)
      rw [Function.update_idem] at hp' hcontents
      rw [hp.contents_put_none hi hlt, Function.update_idem] at hcontents
      have hcomm : (h.new x).1.put a none hlt' = ((h.put a none hlt).new x).1 := by
        exact eq_of_object (Function.update_comm hne.symm ..) rfl
      refine ⟨_, hdelete, ?_, ?_⟩
      · rw [hcomm]
        exact hp'
      · rw [hcomm]
        exact hcontents

/-- **Assigning** to what a holder holds. -/
theorem write_ok (hp : Partitioned h holds) (hi : h.contents holds i = some x) (y : Object) :
    ∃ h', h.write (holds i) y = .ok h' ∧ Partitioned h' holds ∧
      h'.contents holds = Function.update (h.contents holds) i (some y) ∧ h'.next = h.next := by
  cases ha : holds i with
  | none =>
    rw [contents_of_none ha] at hi
    cases hi
  | some a =>
    rw [contents_of_some ha] at hi
    obtain ⟨hlt, hwrite⟩ := write_of_object (y := y) hi
    exact ⟨h.put a (some y) hlt, hwrite, hp.put_some ha hlt, hp.contents_put_some ha hlt, rfl⟩

end Partitioned
end Contents
end OwnedHeap
