import LookoutVision.ElementSteps

/-!
# The bitmap of a frame

The agent takes packed bitmaps in interleaved RGB888 (`Packed`): the pixels of a
row follow each other, and so do the rows.  In GStreamer's default RGB layout
(`HoldsImage`) every row is padded to a multiple of four bytes.  The chain
function passes the buffer's bytes on as they are, so what arrives is the packed
bitmap exactly when the rows need no padding: when the width is a multiple of 4
(`sends_packed_iff`).
-/

namespace LookoutVision

/-! ## The two layouts -/

/-- An RGB image of `w` columns and `h` rows: the value of each channel of each
pixel. -/
structure Image (w h : Nat) where
  channel : Fin w → Fin h → Fin 3 → UInt8

/-- Bytes from one row to the next: three for each pixel, rounded up to a
multiple of 4. -/
def rowStride (w : Nat) : Nat := (3 * w + 3) / 4 * 4

/-- The bytes are the image in GStreamer's default RGB layout. -/
structure HoldsImage {w h : Nat} (bytes : List UInt8) (image : Image w h) : Prop where
  length : bytes.length = rowStride w * h
  channel : ∀ (x : Fin w) (y : Fin h) (c : Fin 3),
    bytes[y * rowStride w + 3 * x + c]? = some (image.channel x y c)

/-- The bytes are the packed interleaved RGB888 bitmap of the image. -/
structure Packed {w h : Nat} (bytes : List UInt8) (image : Image w h) : Prop where
  length : bytes.length = 3 * w * h
  channel : ∀ (x : Fin w) (y : Fin h) (c : Fin 3),
    bytes[3 * (y * w + x) + c]? = some (image.channel x y c)

/-- A row needs no padding exactly when its width is a multiple of 4. -/
theorem rowStride_eq_iff (w : Nat) : rowStride w = 3 * w ↔ 4 ∣ w := by
  unfold rowStride
  omega

/-- **The two layouts agree** exactly on widths that are multiples of 4. -/
theorem packed_iff {w h : Nat} {bytes : List UInt8} {image : Image w h} (hh : 0 < h)
    (hb : HoldsImage bytes image) : Packed bytes image ↔ 4 ∣ w := by
  rw [← rowStride_eq_iff]
  constructor
  · intro hp
    have hlen : rowStride w * h = 3 * w * h := hb.length.symm.trans hp.length
    exact Nat.eq_of_mul_eq_mul_right hh hlen
  · intro hs
    refine ⟨by rw [hb.length, hs], fun x y c => ?_⟩
    have hindex : 3 * (y * w + x) + c = y * rowStride w + 3 * x + c := by
      rw [hs, Nat.mul_add, Nat.mul_left_comm]
    rw [hindex]
    exact hb.channel x y c

/-! ## The request -/

/-- The frame was sent in one request, of the image's width and height, whose
bitmap as the agent finds it is the packed image. -/
def SendsPacked {w h : Nat} (c : Chained) (image : Image w h) : Prop :=
  ∃ target request outcome bytes,
    c.calls = [⟨target, .detectAnomalies request outcome⟩] ∧
      request.bitmap.width.toInt = w ∧ request.bitmap.height.toInt = h ∧
      request.bitmap.data.bytes c.element.kernel = some bytes ∧ Packed bytes image

section
variable {build : Build} {env : Environment} {e : Element} {component : String} {w h : Nat}
  {image : Image w h} {buf : GstBuffer}

/-- The request carries the recorded dimensions and the buffer's own bytes. -/
theorem sendsPacked_iff_packed {c : Chained} (hspec : Chains build env e buf c)
    (hcomponent : e.filter.modelComponent = some component) :
    SendsPacked c image ↔
      e.filter.width.toInt = w ∧ e.filter.height.toInt = h ∧ Packed buf.data image := by
  obtain ⟨request, hcalls, -, hwidth, hheight, hbytes, -⟩ :=
    hspec.request component hcomponent
  rw [toInt32_sizeT] at hwidth hheight
  constructor
  · rintro ⟨target, request', outcome, bytes, hcalls', hwidth', hheight', hbytes', hpacked⟩
    have hsame : request' = request := by
      rw [hcalls] at hcalls'
      injection hcalls' with hcall
      injection hcall with _ hrpc
      injection hrpc with hrequest
      exact hrequest.symm
    subst hsame
    rw [hbytes] at hbytes'
    obtain rfl := Option.some.inj hbytes'
    exact ⟨hwidth ▸ hwidth', hheight ▸ hheight', hpacked⟩
  · rintro ⟨hw, hh, hpacked⟩
    exact ⟨_, request, _, buf.data, hcalls, by rw [hwidth, hw], by rw [hheight, hh], hbytes,
      hpacked⟩

/-- **The packed bitmap reaches the agent** exactly when the width is a multiple
of 4, for every image, in either build. -/
theorem sends_packed_iff (image : Image w h) (hserved : Served build env.os)
    (hready : Ready build e.kernel e.filter.inferenceClient)
    (hcomponent : e.filter.modelComponent = some component)
    (hwidth : e.filter.width.toInt = w) (hheight : e.filter.height.toInt = h) (hh : 0 < h)
    (hbuf : HoldsImage buf.data image) :
    ∃ c, gstLookoutVisionChain env e buf = .ok c ∧ (SendsPacked c image ↔ 4 ∣ w) := by
  obtain ⟨c, hchain, hspec⟩ := chain_ready hserved hready buf
  refine ⟨c, hchain, ?_⟩
  rw [sendsPacked_iff_packed hspec hcomponent, packed_iff hh hbuf]
  exact ⟨fun h => h.2.2, fun h4 => ⟨hwidth, hheight, h4⟩⟩

end

/-! ## A grey frame -/

/-- Every channel of every pixel the same. -/
def greyImage (w h : Nat) : Image w h := ⟨fun _ _ _ => 128⟩

def greyBuffer (w h : Nat) : GstBuffer := ⟨List.replicate (rowStride w * h) 128, 1, []⟩

theorem greyBuffer_holds (w h : Nat) : HoldsImage (greyBuffer w h).data (greyImage w h) where
  length := List.length_replicate
  channel := by
    intro x y c
    have hrow : 3 * (x : Nat) + c < rowStride w := by
      have := x.isLt
      have := c.isLt
      unfold rowStride
      omega
    have hindex : y * rowStride w + 3 * x + c < rowStride w * h := by
      have hy : (y : Nat) + 1 ≤ h := y.isLt
      calc y * rowStride w + 3 * x + c < y * rowStride w + rowStride w := by omega
        _ = rowStride w * (y + 1) := by rw [Nat.mul_succ, Nat.mul_comm]
        _ ≤ rowStride w * h := Nat.mul_le_mul_left _ hy
    simp only [greyBuffer, greyImage, List.getElem?_replicate, hindex, if_true]

/-- An element of the default build with its model component set, after a caps
event of the given size. -/
def configuredElement (width height : Int32) : Element where
  filter :=
    { sinkpad := ⟨true⟩
      inferenceClient := ⟨defaultServerSocket, ⟨defaultServerSocket⟩, ⟨⟨defaultServerSocket⟩⟩, none⟩
      width := width
      height := height
      serverSocket := some defaultServerSocket
      modelComponent := some "SampleModel"
      modelStatusTimeout := defaultModelStatusTimeout }
  kernel := Posix.Kernel.empty

theorem configuredElement_ready (width height : Int32) :
    Ready .default (configuredElement width height).kernel
      (configuredElement width height).filter.inferenceClient := rfl

theorem sends_packed_sample :
    ∃ c, gstLookoutVisionChain (.steady fun _ _ => true) (configuredElement 64 64)
      (greyBuffer 64 64) = .ok c ∧ (SendsPacked c (greyImage 64 64) ↔ 4 ∣ 64) :=
  sends_packed_iff (greyImage 64 64) served_default (configuredElement_ready 64 64) rfl rfl rfl
    (by decide) (greyBuffer_holds 64 64)

/-- **A frame of 65 columns arrives with the padding of its rows**: 12544 bytes
for a bitmap of 12480. -/
theorem sends_padding :
    ∃ c, gstLookoutVisionChain (.steady fun _ _ => true) (configuredElement 65 64)
      (greyBuffer 65 64) = .ok c ∧ HoldsImage (greyBuffer 65 64).data (greyImage 65 64) ∧
      (greyBuffer 65 64).data.length = 12544 ∧ ¬ SendsPacked c (greyImage 65 64) := by
  have hholds := greyBuffer_holds 65 64
  have hserved : Served .default (Environment.steady fun _ _ => true).os := served_default
  obtain ⟨c, hchain, hspec⟩ :=
    chain_ready hserved (configuredElement_ready 65 64) (greyBuffer 65 64)
  refine ⟨c, hchain, hholds, hholds.length, ?_⟩
  rw [sendsPacked_iff_packed hspec rfl, packed_iff (by decide) hholds]
  exact fun h => absurd h.2.2 (by decide)

end LookoutVision
