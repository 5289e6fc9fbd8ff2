import LookoutVision.InferenceClient
import LookoutVision.Runs

/-!
# Buffers and the result metadata

`GstBuffer` as far as the plugin uses it: the bytes it maps, its reference count
and its metas in the order they were added.  A `GstLookoutVisionMeta` points to
a result, or to none right after `gst_lookout_vision_meta_init`.

Of GStreamer: a meta can be added to a writable buffer only, one whose reference
count is 1; a copy of a buffer hands every meta of the source, in order, to that
meta's own transform; and `gst_buffer_get_meta` returns the first meta of the
requested API.
-/

namespace LookoutVision

structure GstLookoutVisionMeta where
  result : Option GstLookoutVisionResult
deriving DecidableEq, Repr

/-- A meta of this plugin's API, or of another one. -/
inductive GstMeta
  | lookoutVision (value : GstLookoutVisionMeta)
  | other (api : String)
deriving DecidableEq, Repr

/-- A meta of this plugin's API. -/
def GstMeta.lookoutVision? : GstMeta → Option GstLookoutVisionMeta
  | .lookoutVision value => some value
  | .other _ => none

structure GstBuffer where
  data : List UInt8
  refcount : Nat
  metas : List GstMeta
deriving DecidableEq, Repr

namespace GstBuffer

/-- `gst_buffer_is_writable`. -/
def Writable (buffer : GstBuffer) : Prop := buffer.refcount = 1

instance (buffer : GstBuffer) : Decidable buffer.Writable :=
  inferInstanceAs (Decidable (_ = _))

end GstBuffer

def gstLookoutVisionMetaInit : GstLookoutVisionMeta := ⟨none⟩

/-- `gst_buffer_add_meta` for this plugin's `GstMetaInfo`: the buffer's metas
with the new, initialised one behind them; `none` for `NULL`. -/
def gstBufferAddMeta (buffer : GstBuffer) : Option (List GstMeta × GstLookoutVisionMeta) :=
  if buffer.Writable then some (buffer.metas, gstLookoutVisionMetaInit) else none

/-- `gst_buffer_add_lookout_vision_meta`: the buffer afterwards, and the meta
returned.  The meta gets a copy of the result. -/
def gstBufferAddLookoutVisionMeta (buffer : GstBuffer) (result : GstLookoutVisionResult) :
    GstBuffer × Option GstLookoutVisionMeta :=
  match gstBufferAddMeta buffer with
  | none => (buffer, none)
  | some (before, added) =>
      let filled : GstLookoutVisionMeta := { added with result := some result }
      ({ buffer with metas := before ++ [.lookoutVision filled] }, some filled)

/-- `gst_lookout_vision_meta_transform`: the destination afterwards, and whether
it got a meta.  A source without a result is dereferenced once the destination
has its new meta. -/
def gstLookoutVisionMetaTransform (dest : GstBuffer) (srcMeta : GstLookoutVisionMeta) :
    Except Fault (GstBuffer × Bool) :=
  match srcMeta.result with
  | some result =>
      let added := gstBufferAddLookoutVisionMeta dest result
      .ok (added.1, added.2.isSome)
  | none =>
      match gstBufferAddMeta dest with
      | none => .ok (dest, false)
      | some _ => .error (.access .segmentation)

/-- `gst_buffer_get_meta` for this plugin's API. -/
def gstBufferGetMeta (buffer : GstBuffer) : Option GstLookoutVisionMeta :=
  buffer.metas.findSome? GstMeta.lookoutVision?

/-- `gst_buffer_get_lookout_vision_meta`.  The first attempt to attach a meta
registers its `GstMetaInfo` with the process (`registered`); before that
`gst_meta_get_info` is `NULL`, and its `api` is read all the same. -/
def gstBufferGetLookoutVisionMeta (registered : Bool) (buffer : GstBuffer) :
    Except Fault (Option GstLookoutVisionMeta) :=
  if registered then .ok (gstBufferGetMeta buffer) else .error (.access .segmentation)

/-- One meta of a copy's source, carried over to the destination.  `carried` says
which metas of other APIs come along. -/
def gstBufferCopyMeta (carried : String → Bool) (dest : GstBuffer) :
    GstMeta → Except Fault GstBuffer
  | .other api =>
      .ok (if carried api then { dest with metas := dest.metas ++ [.other api] } else dest)
  | .lookoutVision value =>
      match gstLookoutVisionMetaTransform dest value with
      | .error fault => .error fault
      | .ok (dest', _) => .ok dest'

/-- A copy of a buffer: a new buffer with the same bytes, and the metas. -/
def gstBufferCopy (carried : String → Bool) (buffer : GstBuffer) : Except Fault GstBuffer :=
  buffer.metas.foldlM (gstBufferCopyMeta carried) ⟨buffer.data, 1, []⟩

/-- The metas of this plugin, in the order they were added. -/
def GstBuffer.lookoutVisionMetas (buffer : GstBuffer) : List GstLookoutVisionMeta :=
  buffer.metas.filterMap GstMeta.lookoutVision?

section
variable {buffer : GstBuffer} {result : GstLookoutVisionResult}

theorem addMeta_writable (h : buffer.Writable) :
    gstBufferAddLookoutVisionMeta buffer result =
      ({ buffer with metas := buffer.metas ++ [.lookoutVision ⟨some result⟩] },
        some ⟨some result⟩) := by
  simp [gstBufferAddLookoutVisionMeta, gstBufferAddMeta, h]

/-- On a buffer somebody else holds too, nothing is attached. -/
theorem addMeta_shared (h : ¬ buffer.Writable) :
    gstBufferAddLookoutVisionMeta buffer result = (buffer, none) := by
  simp [gstBufferAddLookoutVisionMeta, gstBufferAddMeta, h]

/-- Attaching never touches the image. -/
theorem addMeta_data : (gstBufferAddLookoutVisionMeta buffer result).1.data = buffer.data := by
  by_cases h : buffer.Writable
  · rw [addMeta_writable h]
  · rw [addMeta_shared h]

theorem addMeta_refcount :
    (gstBufferAddLookoutVisionMeta buffer result).1.refcount = buffer.refcount := by
  by_cases h : buffer.Writable
  · rw [addMeta_writable h]
  · rw [addMeta_shared h]

/-- Attaching adds behind the metas of this plugin that are there. -/
theorem lookoutVisionMetas_addMeta (h : buffer.Writable) :
    (gstBufferAddLookoutVisionMeta buffer result).1.lookoutVisionMetas =
      buffer.lookoutVisionMetas ++ [⟨some result⟩] := by
  rw [addMeta_writable h]
  simp only [GstBuffer.lookoutVisionMetas, List.filterMap_append]
  rfl

theorem lookoutVisionMetas_eq_nil (h : ∀ m, GstMeta.lookoutVision m ∉ buffer.metas) :
    buffer.lookoutVisionMetas = [] := by
  refine List.filterMap_eq_nil_iff.mpr fun m hm => ?_
  cases m with
  | other api => rfl
  | lookoutVision value => exact absurd hm (h value)

/-- What a reader gets is the first of them. -/
theorem getMeta_eq_head? : gstBufferGetMeta buffer = buffer.lookoutVisionMetas.head? := by
  unfold gstBufferGetMeta GstBuffer.lookoutVisionMetas
  exact (List.head?_filterMap ..).symm

/-- One meta more on a writable destination. -/
theorem copyMeta_writable (carried : String → Bool) {dest : GstBuffer} (hw : dest.Writable)
    {m : GstMeta} (hm : ∀ value, m = .lookoutVision value → value.result ≠ none) :
    ∃ dest', gstBufferCopyMeta carried dest m = .ok dest' ∧ dest'.Writable ∧
      dest'.data = dest.data ∧ dest'.lookoutVisionMetas =
        dest.lookoutVisionMetas ++ [m].filterMap GstMeta.lookoutVision? := by
  cases m with
  | other api =>
    refine ⟨_, rfl, ?_⟩
    split
    · refine ⟨hw, rfl, ?_⟩
      simp only [GstBuffer.lookoutVisionMetas, List.filterMap_append]
    · exact ⟨hw, rfl, (List.append_nil _).symm⟩
  | lookoutVision value =>
    obtain ⟨result, hresult⟩ := Option.ne_none_iff_exists'.mp (hm value rfl)
    obtain rfl : value = ⟨some result⟩ := by
      cases value
      exact congrArg GstLookoutVisionMeta.mk hresult
    refine ⟨(gstBufferAddLookoutVisionMeta dest result).1, rfl, ?_, addMeta_data,
      lookoutVisionMetas_addMeta hw⟩
    exact addMeta_refcount.trans hw

/-- **A copy** of a buffer whose metas all have their results is a writable buffer
with the same bytes and the same metas of this plugin. -/
theorem copy_ok (carried : String → Bool)
    (h : ∀ value ∈ buffer.lookoutVisionMetas, value.result ≠ none) :
    ∃ copied, gstBufferCopy carried buffer = .ok copied ∧ copied.Writable ∧
      copied.data = buffer.data ∧ copied.lookoutVisionMetas = buffer.lookoutVisionMetas := by
  -- What has been carried over so far is what the destination has.
  refine Machine.foldlM_invariant (J := fun done (dest : GstBuffer) => dest.Writable ∧
    dest.data = buffer.data ∧
      dest.lookoutVisionMetas = done.filterMap GstMeta.lookoutVision?) ?_ ⟨rfl, rfl, rfl⟩
  rintro done dest m ⟨hw, hdata, hmetas⟩ hm
  have hresult : ∀ value, m = .lookoutVision value → value.result ≠ none :=
    fun value he => h value (List.mem_filterMap.mpr ⟨m, hm, by rw [he]; rfl⟩)
  obtain ⟨dest', hstep, hw', hdata', hmetas'⟩ := copyMeta_writable carried hw hresult
  refine ⟨dest', hstep, hw', hdata'.trans hdata, ?_⟩
  rw [hmetas', hmetas, List.filterMap_append]

end
end LookoutVision
