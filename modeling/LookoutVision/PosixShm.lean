import Mathlib.Data.List.Basic
import Mathlib.Logic.Function.Basic

/-!
# POSIX shared memory objects

The kernel's side of shared memory, as the manual pages of `shm_open`,
`ftruncate`, `mmap`, `munmap` and `shm_unlink` describe it.  A **name** is bound
to at most one **object**; an object is a string of bytes that outlives its name
while somebody has it open; a **mapping** is a window of some length on an
object, found at an address.  `ftruncate` sets an object's length whatever the
mappings on it.  Storing through a mapping reaches the object: a store past the
mapping is a segmentation fault, one past the object's current end a bus error.

Objects and addresses are numbered in the order they are handed out, and a
`Kernel` carries the facts this order gives: a bound name refers to an object
already handed out, a live mapping sits at an address already handed out.
-/

namespace Posix

/-- What becomes of a process that stores outside its memory. -/
inductive AccessFault
  | segmentation
  | bus
deriving DecidableEq, Repr

/-- A window of `length` bytes on an object, at an address. -/
structure Mapping where
  address : Nat
  object : Nat
  length : Nat
deriving DecidableEq, Repr

/-- Whether the calls that can fail succeed: one answer for each call an
operation makes at most once. -/
structure Outcomes where
  shmOpen : Bool
  ftruncate : Bool
  mmap : Bool
deriving DecidableEq, Repr

/-- Every call succeeds. -/
def Outcomes.Succeed (o : Outcomes) : Prop :=
  o.shmOpen = true ∧ o.ftruncate = true ∧ o.mmap = true

instance (o : Outcomes) : Decidable o.Succeed :=
  inferInstanceAs (Decidable (_ ∧ _ ∧ _))

/-- No call fails. -/
def Outcomes.allSucceed : Outcomes := ⟨true, true, true⟩

/-- The shared memory the kernel keeps: the name table, the objects' bytes and
the live mappings, with how many objects and addresses were handed out. -/
structure Kernel (Name Byte : Type) where
  bound : Name → Option Nat
  content : Nat → List Byte
  objects : Nat
  mappings : List Mapping
  addresses : Nat
  bound_lt : ∀ name o, bound name = some o → o < objects
  address_lt : ∀ m ∈ mappings, m.address < addresses

section
variable {Name Byte : Type}

/-- The bytes of an object cut or zero-extended to `n`. -/
def resize [Inhabited Byte] (n : Nat) (bytes : List Byte) : List Byte :=
  bytes.take n ++ List.replicate (n - bytes.length) default

@[simp] theorem length_resize [Inhabited Byte] (n : Nat) (bytes : List Byte) :
    (resize n bytes).length = n := by
  simp only [resize, List.length_append, List.length_take, List.length_replicate]
  omega

/-- The bytes `new` stored over the beginning of `old`. -/
def overwrite (old new : List Byte) : List Byte := new ++ old.drop new.length

theorem length_overwrite {old new : List Byte} (h : new.length ≤ old.length) :
    (overwrite old new).length = old.length := by
  simp only [overwrite, List.length_append, List.length_drop]
  omega

/-- Stored over something no longer, the new bytes are all there is. -/
theorem overwrite_of_length_le {old new : List Byte} (h : old.length ≤ new.length) :
    overwrite old new = new := by
  rw [overwrite, List.drop_eq_nil_of_le h, List.append_nil]

/-- A store is exact on whatever begins with what was stored. -/
theorem begins_overwrite {old new kept : List Byte} (h : kept <+: new) :
    kept <+: overwrite old new :=
  h.trans (List.prefix_append new _)

/-- A store of what was there already changes nothing. -/
theorem overwrite_of_begins {old new : List Byte} (h : new <+: old) : overwrite old new = old := by
  obtain ⟨rest, rfl⟩ := h
  simp [overwrite]

/-- What a list begins with survives a store exactly when one of the two begins
the other. -/
theorem begins_overwrite_iff {old new kept : List Byte} (h : kept <+: old) :
    kept <+: overwrite old new ↔ kept <+: new ∨ new <+: kept := by
  constructor
  · exact fun hk => List.prefix_or_prefix_of_prefix hk (List.prefix_append new _)
  · rintro (hk | hn)
    · exact begins_overwrite hk
    · rw [overwrite_of_begins (hn.trans h)]
      exact h

namespace Kernel

/-- Nothing named, nothing open, nothing mapped. -/
def empty : Kernel Name Byte where
  bound := fun _ => none
  content := fun _ => []
  objects := 0
  mappings := []
  addresses := 0
  bound_lt := nofun
  address_lt := nofun

variable (k : Kernel Name Byte)

/-- The mapping found at an address. -/
def mappingAt (address : Nat) : Option Mapping :=
  k.mappings.find? (fun m => m.address = address)

/-- `size` bytes of the object a name is bound to, from `offset`; `none` when
the name is unbound or the range is not inside the object. -/
def read (name : Name) (offset size : Nat) : Option (List Byte) :=
  match k.bound name with
  | none => none
  | some o =>
      if offset + size ≤ (k.content o).length then
        some (((k.content o).drop offset).take size)
      else none

/-- Replace the bytes of one object. -/
def setContent (o : Nat) (bytes : List Byte) : Kernel Name Byte :=
  { k with content := Function.update k.content o bytes }

/-- `shm_open` with `O_CREAT`: the object the name is bound to, or a new empty
one bound to it. -/
def shmOpen [DecidableEq Name] (name : Name) : Kernel Name Byte × Nat :=
  match k.bound name with
  | some o => (k, o)
  | none =>
      ({ bound := Function.update k.bound name (some k.objects)
         content := Function.update k.content k.objects []
         objects := k.objects + 1
         mappings := k.mappings
         addresses := k.addresses
         bound_lt := by
           intro n o h
           by_cases hn : n = name
           · subst hn
             rw [Function.update_self] at h
             exact (Option.some.inj h) ▸ Nat.lt_succ_self _
           · rw [Function.update_of_ne hn] at h
             exact Nat.lt_succ_of_lt (k.bound_lt n o h)
         address_lt := k.address_lt }, k.objects)

/-- `ftruncate`: the object gets exactly `n` bytes. -/
def ftruncate [Inhabited Byte] (o n : Nat) : Kernel Name Byte :=
  k.setContent o (resize n (k.content o))

/-- `mmap`: a window of `length` bytes on `o`, at a fresh address. -/
def mmap (o length : Nat) : Kernel Name Byte × Nat :=
  ({ k with
      mappings := ⟨k.addresses, o, length⟩ :: k.mappings
      addresses := k.addresses + 1
      address_lt := by
        intro m hm
        rcases List.mem_cons.mp hm with rfl | hm
        · exact Nat.lt_succ_self _
        · exact Nat.lt_succ_of_lt (k.address_lt m hm) }, k.addresses)

/-- `munmap` of an address and a length: that mapping goes. -/
def munmap (address length : Nat) : Kernel Name Byte :=
  { k with
    mappings := k.mappings.filter fun m => ¬(m.address = address ∧ m.length = length)
    address_lt := fun m hm => k.address_lt m (List.mem_of_mem_filter hm) }

/-- `shm_unlink`: the name goes, the object stays with whoever has it open. -/
def shmUnlink [DecidableEq Name] (name : Name) : Kernel Name Byte :=
  { k with
    bound := Function.update k.bound name none
    bound_lt := by
      intro n o h
      by_cases hn : n = name
      · subst hn
        rw [Function.update_self] at h
        cases h
      · rw [Function.update_of_ne hn] at h
        exact k.bound_lt n o h }

/-- Store `bytes` from an address on.  Storing nothing touches nothing.  The bus error is
by the byte: a system that raises it by the page may let a store pass that ends between
the object's end and the end of its last page. -/
def store (address : Option Nat) (bytes : List Byte) : Except AccessFault (Kernel Name Byte) :=
  if bytes.length = 0 then .ok k
  else
    match address.bind k.mappingAt with
    | none => .error .segmentation
    | some m =>
        if bytes.length ≤ m.length then
          if bytes.length ≤ (k.content m.object).length then
            .ok (k.setContent m.object (overwrite (k.content m.object) bytes))
          else .error .bus
        else .error .segmentation

/-! ## What each call leaves alone -/

variable {k}

section SetContent
variable {o : Nat} {bytes : List Byte}

@[simp] theorem content_setContent_self : (k.setContent o bytes).content o = bytes :=
  Function.update_self ..

theorem content_setContent_of_ne {o' : Nat} (h : o' ≠ o) :
    (k.setContent o bytes).content o' = k.content o' :=
  Function.update_of_ne h ..

@[simp] theorem setContent_content : k.setContent o (k.content o) = k := by
  simp only [setContent, Function.update_eq_self]

end SetContent

section Truncate
variable [Inhabited Byte] {o n : Nat}

@[simp] theorem addresses_ftruncate : (k.ftruncate o n).addresses = k.addresses := rfl
@[simp] theorem mappingAt_ftruncate : (k.ftruncate o n).mappingAt = k.mappingAt := rfl

@[simp] theorem content_ftruncate_self :
    (k.ftruncate o n).content o = resize n (k.content o) :=
  content_setContent_self

theorem content_ftruncate_of_ne {o' : Nat} (h : o' ≠ o) :
    (k.ftruncate o n).content o' = k.content o' :=
  content_setContent_of_ne h

end Truncate

section Map
variable {o length : Nat}

@[simp] theorem content_mmap : (k.mmap o length).1.content = k.content := rfl
@[simp] theorem mmap_address : (k.mmap o length).2 = k.addresses := rfl

/-- A mapping found at an address sits there, and the address was handed out. -/
theorem mappingAt_address {a : Nat} {m : Mapping} (h : k.mappingAt a = some m) :
    m ∈ k.mappings ∧ m.address = a ∧ a < k.addresses := by
  have hmem := List.mem_of_find?_eq_some h
  have ha : m.address = a := by simpa using List.find?_some h
  exact ⟨hmem, ha, ha ▸ k.address_lt m hmem⟩

@[simp] theorem mappingAt_mmap_self :
    (k.mmap o length).1.mappingAt k.addresses = some ⟨k.addresses, o, length⟩ := by
  simp [mappingAt, mmap]

/-- A new mapping hides no old one. -/
theorem mappingAt_mmap_of_lt {a : Nat} (h : a < k.addresses) :
    (k.mmap o length).1.mappingAt a = k.mappingAt a := by
  have hne : ¬ k.addresses = a := by omega
  simp [mappingAt, mmap, hne]

end Map

section Unmap
variable {a length : Nat}

/-- Unmapping at one address leaves what is mapped at the others. -/
theorem mappingAt_munmap_of_ne {b : Nat} (h : b ≠ a) :
    (k.munmap a length).mappingAt b = k.mappingAt b := by
  unfold mappingAt munmap
  rw [List.find?_filter]
  refine congrArg (List.find? · k.mappings) (funext fun m => ?_)
  by_cases hm : m.address = b
  · simp [hm, h]
  · simp [hm]

end Unmap

section Unlink
variable [DecidableEq Name] {name : Name}

@[simp] theorem bound_shmUnlink : (k.shmUnlink name).bound name = none :=
  Function.update_self ..

end Unlink

/-! ## Opening -/

section Open
variable [DecidableEq Name] {name : Name}

theorem shmOpen_of_bound {o : Nat} (h : k.bound name = some o) : k.shmOpen name = (k, o) := by
  simp [shmOpen, h]

/-- After `shm_open` the name is bound to the object it returned. -/
theorem bound_shmOpen : (k.shmOpen name).1.bound name = some (k.shmOpen name).2 := by
  cases h : k.bound name with
  | some o => rw [shmOpen_of_bound h]; exact h
  | none => simp [shmOpen, h]

theorem shmOpen_lt : (k.shmOpen name).2 < (k.shmOpen name).1.objects :=
  (k.shmOpen name).1.bound_lt name _ bound_shmOpen

theorem objects_le_shmOpen : k.objects ≤ (k.shmOpen name).1.objects := by
  cases h : k.bound name with
  | some o => exact Nat.le_of_eq (by rw [shmOpen_of_bound h])
  | none => simp [shmOpen, h]

/-- Opening an unbound name yields an object nobody has. -/
theorem shmOpen_of_unbound (h : k.bound name = none) : (k.shmOpen name).2 = k.objects := by
  simp [shmOpen, h]

/-- Opening a name yields an object somebody has exactly when the name is bound
to it. -/
theorem shmOpen_eq_iff {o : Nat} (ho : o < k.objects) :
    (k.shmOpen name).2 = o ↔ k.bound name = some o := by
  cases h : k.bound name with
  | some o' =>
    rw [shmOpen_of_bound h]
    exact (Option.some.injEq o' o).symm ▸ Iff.rfl
  | none =>
    rw [shmOpen_of_unbound h]
    exact ⟨fun he => absurd he (by omega), nofun⟩

@[simp] theorem mappingAt_shmOpen : (k.shmOpen name).1.mappingAt = k.mappingAt := by
  cases h : k.bound name with
  | some o => rw [shmOpen_of_bound h]
  | none => simp only [shmOpen, h]; rfl

@[simp] theorem addresses_shmOpen : (k.shmOpen name).1.addresses = k.addresses := by
  cases h : k.bound name with
  | some o => rw [shmOpen_of_bound h]
  | none => simp [shmOpen, h]

@[simp] theorem mappings_shmOpen : (k.shmOpen name).1.mappings = k.mappings := by
  cases h : k.bound name with
  | some o => rw [shmOpen_of_bound h]
  | none => simp [shmOpen, h]

/-- Opening touches no object handed out before. -/
theorem content_shmOpen {o : Nat} (ho : o < k.objects) :
    (k.shmOpen name).1.content o = k.content o := by
  cases h : k.bound name with
  | some o => rw [shmOpen_of_bound h]
  | none =>
    simp only [shmOpen, h]
    exact Function.update_of_ne (Nat.ne_of_lt ho) ..

end Open

/-! ## Storing and reading -/

/-- **A store inside its mapping and its object succeeds**, and overwrites the
beginning of the object. -/
theorem store_eq {a : Nat} {m : Mapping} {bytes : List Byte} (hm : k.mappingAt a = some m)
    (hlen : bytes.length ≤ m.length) (hcontent : bytes.length ≤ (k.content m.object).length) :
    k.store (some a) bytes =
      .ok (k.setContent m.object (overwrite (k.content m.object) bytes)) := by
  unfold store
  split
  · rename_i h0
    rw [List.length_eq_zero_iff.mp h0, overwrite_of_begins (List.nil_prefix ..),
      setContent_content]
  · simp only [Option.bind_some, hm]
    rw [if_pos hlen, if_pos hcontent]

/-- **What a read finds** lies inside the object the name is bound to. -/
theorem read_inv {name : Name} {offset size : Nat} {bytes : List Byte}
    (h : k.read name offset size = some bytes) :
    ∃ o, k.bound name = some o ∧ offset + size ≤ (k.content o).length ∧
      ((k.content o).drop offset).take size = bytes := by
  unfold read at h
  split at h
  · cases h
  · rename_i o hb
    split at h
    · exact ⟨o, hb, ‹_›, Option.some.inj h⟩
    · cases h

/-- Reading from the beginning of an object reads what it begins with. -/
theorem read_eq_some_iff {name : Name} {o : Nat} {bytes : List Byte}
    (hb : k.bound name = some o) :
    k.read name 0 bytes.length = some bytes ↔ bytes <+: k.content o := by
  constructor
  · intro h
    obtain ⟨o', hb', -, htake⟩ := read_inv h
    obtain rfl := Option.some.inj (hb.symm.trans hb')
    rw [List.drop_zero] at htake
    exact List.prefix_iff_eq_take.mpr htake.symm
  · intro h
    simp only [read, hb, Nat.zero_add, h.length_le, if_true, List.drop_zero]
    exact congrArg some (List.prefix_iff_eq_take.mp h).symm

end Kernel
end
end Posix
