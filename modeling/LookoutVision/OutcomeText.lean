import LookoutVision.FrameResult

/-!
# What a reader learns of an agent's outcome

A frame's result is made of the RPC's outcome in `DetectAnomalies`, copied into
the meta and read by another element.  An OK reply and an exception arrive as
they were.  Of an error status the reader ought to get the code, `": "` and the
message; the source adds the code to a pointer instead, so what arrives is the
message behind whatever lies that many bytes into the literal `": "`.

That is never the text it ought to be without reading outside the literal, so the
outcomes that arrive unaltered are exactly those without an error status
(`outcome_reaches_reader_iff`).
-/

namespace LookoutVision

/-- The C string that begins `code` bytes into `": "` begins inside the literal,
at its terminating NUL at the latest. -/
def ReadsLiteral (code : Int) : Prop := 0 ≤ code ∧ code ≤ 2

/-- The result a reader ought to find for an outcome. -/
def Unaltered (outcome : RpcOutcome DetectAnomaliesResponse) (result : GstLookoutVisionResult) :
    Prop :=
  match outcome with
  | .returned status reply =>
      if status.ok then
        result = ⟨reply.detectAnomalyResult.isAnomalous, reply.detectAnomalyResult.confidence,
          .successful, ""⟩
      else
        result.resultStatus = .failed ∧
          result.errorMessage = toString status.errorCode ++ ": " ++ status.errorMessage ∧
          ReadsLiteral status.errorCode
  | .threw what => result.resultStatus = .failed ∧ result.errorMessage = what

def ErrorStatus (outcome : RpcOutcome DetectAnomaliesResponse) : Prop :=
  ∃ status reply, outcome = .returned status reply ∧ status.ok = false

/-- Inside the literal there is a text one short, or none, and never the code. -/
theorem literalFrom_ne {rodata : Int → String} {code : Int} (hin : ReadsLiteral code)
    (h0 : code ≠ 0) (message : String) :
    LookoutVisionInferenceClient.literalFrom rodata code ++ message ≠
      toString code ++ ": " ++ message := by
  intro h
  have hlen := congrArg String.length h
  obtain ⟨hlo, hhi⟩ := hin
  have hcode : code = 1 ∨ code = 2 := by omega
  rcases hcode with rfl | rfl
  · have h1 : LookoutVisionInferenceClient.literalFrom rodata 1 = " " := rfl
    have h1' : toString (1 : Int) ++ ": " = "1: " := rfl
    rw [h1, h1', String.length_append, String.length_append] at hlen
    have : " ".length = 1 := rfl
    have : "1: ".length = 3 := rfl
    omega
  · have h2 : LookoutVisionInferenceClient.literalFrom rodata 2 = "" := rfl
    have h2' : toString (2 : Int) ++ ": " = "2: " := rfl
    rw [h2, h2', String.length_append, String.length_append] at hlen
    have : "".length = 0 := rfl
    have : "2: ".length = 3 := rfl
    omega

/-- **The result of an outcome is unaltered** exactly when the outcome is no error
status. -/
theorem unaltered_result_iff (rodata : Int → String)
    (outcome : RpcOutcome DetectAnomaliesResponse) :
    Unaltered outcome (LookoutVisionInferenceClient.detectAnomaliesResult rodata outcome) ↔
      ¬ ErrorStatus outcome := by
  unfold Unaltered LookoutVisionInferenceClient.detectAnomaliesResult
  cases outcome with
  | threw what =>
    refine ⟨fun _ => ?_, fun _ => ⟨rfl, rfl⟩⟩
    rintro ⟨status, reply, h, -⟩
    cases h
  | returned status reply =>
    by_cases hok : status.ok = true
    · simp only [hok, if_true, true_iff]
      rintro ⟨status', reply', h, hnot⟩
      cases h
      rw [hok] at hnot
      cases hnot
    · have hnot : status.ok = false := Bool.eq_false_iff.mpr hok
      have hcode : status.errorCode ≠ 0 := fun h0 => hok (beq_iff_eq.mpr h0)
      simp only [hnot, Bool.false_eq_true, if_false]
      constructor
      · rintro ⟨-, htext, hin⟩
        exact absurd htext (literalFrom_ne hin hcode status.errorMessage)
      · exact fun h => absurd ⟨status, reply, rfl, hnot⟩ h

/-- A reader finds the result just attached to a buffer that had none. -/
theorem getLookoutVisionMeta_addMeta {buf : GstBuffer} {result : GstLookoutVisionResult}
    (hw : buf.Writable) (hnone : ∀ m, GstMeta.lookoutVision m ∉ buf.metas) :
    gstBufferGetLookoutVisionMeta true (gstBufferAddLookoutVisionMeta buf result).1 =
      .ok (some ⟨some result⟩) := by
  have hmetas : buf.lookoutVisionMetas = [] := lookoutVisionMetas_eq_nil hnone
  simp only [gstBufferGetLookoutVisionMeta, if_true, getMeta_eq_head?,
    lookoutVisionMetas_addMeta hw, hmetas]
  rfl

/-- **An agent's outcome reaches the reader unaltered** exactly when it is no
error status, whatever state the element is in. -/
theorem outcome_reaches_reader_iff (env : Environment) (e : Element) (buf : GstBuffer)
    {component : String} (hcomponent : e.filter.modelComponent = some component)
    (hw : buf.Writable) (hnone : ∀ m, GstMeta.lookoutVision m ∉ buf.metas) :
    (∀ build, Served build env.os → Ready build e.kernel e.filter.inferenceClient →
      ∃ c, gstLookoutVisionChain env e buf = .ok c) ∧
    ∀ c, gstLookoutVisionChain env e buf = .ok c →
      ∃ target request out result,
        c.calls = [⟨target, .detectAnomalies request (env.detectAnomalies target request)⟩] ∧
        c.pushed = [out] ∧
        gstBufferGetLookoutVisionMeta true out = .ok (some ⟨some result⟩) ∧
        (Unaltered (env.detectAnomalies target request) result ↔
          ¬ ErrorStatus (env.detectAnomalies target request)) := by
  constructor
  · intro build hserved hready
    obtain ⟨c, hchain, -⟩ := chain_ready hserved hready buf
    exact ⟨c, hchain⟩
  · intro c hchain
    obtain ⟨hresult, hpushed⟩ := chain_pushes hchain
    have hcalls := hresult.calls
    simp only [frameCalls, hcomponent] at hcalls
    refine ⟨_, _, _, c.result, hcalls, hpushed, getLookoutVisionMeta_addMeta hw hnone, ?_⟩
    rw [hresult.result]
    simp only [verdict, agentAnswer, hcomponent, Option.map_some]
    exact unaltered_result_iff env.rodata _

theorem outcome_reaches_reader_iff_sample :
    ∃ c, gstLookoutVisionChain (.steady fun _ _ => true) (configuredElement 64 64)
        (greyBuffer 64 64) = .ok c ∧
      ∃ target request out result,
        c.calls = [⟨target, .detectAnomalies request
          ((Environment.steady fun _ _ => true).detectAnomalies target request)⟩] ∧
        c.pushed = [out] ∧
        gstBufferGetLookoutVisionMeta true out = .ok (some ⟨some result⟩) ∧
        (Unaltered ((Environment.steady fun _ _ => true).detectAnomalies target request) result ↔
          ¬ ErrorStatus
            ((Environment.steady fun _ _ => true).detectAnomalies target request)) := by
  obtain ⟨hcompletes, hreaches⟩ :=
    outcome_reaches_reader_iff (.steady fun _ _ => true) (configuredElement 64 64)
      (greyBuffer 64 64) rfl rfl (fun _ => List.not_mem_nil)
  obtain ⟨c, hchain⟩ := hcompletes .default served_default (configuredElement_ready 64 64)
  exact ⟨c, hchain, hreaches c hchain⟩

/-- Agents that answer every frame with an error status. -/
def failingAgent (code : Int) (message : String) : Environment :=
  { Environment.steady fun _ _ => true with
    detectAnomalies := fun _ _ => .returned ⟨code, message⟩ ⟨⟨false, 0⟩⟩ }

/-- **The code is lost**: `UNKNOWN` arrives as the bare message, and two failures
arrive as the same text. -/
theorem error_code_lost :
    (∃ c out, gstLookoutVisionChain (failingAgent 2 "model failed") (configuredElement 64 64)
        (greyBuffer 64 64) = .ok c ∧ c.pushed = [out] ∧
      gstBufferGetLookoutVisionMeta true out =
        .ok (some ⟨some ⟨false, 0, .failed, "model failed"⟩⟩)) ∧
    "model failed" ≠ toString (2 : Int) ++ ": " ++ "model failed" ∧
    LookoutVisionInferenceClient.detectAnomaliesResult (fun _ => "")
        (.returned ⟨1, "no model"⟩ ⟨⟨false, 0⟩⟩) =
      LookoutVisionInferenceClient.detectAnomaliesResult (fun _ => "")
        (.returned ⟨2, " no model"⟩ ⟨⟨false, 0⟩⟩) := by
  refine ⟨?_, by decide, by decide⟩
  have hserved : Served .default (failingAgent 2 "model failed").os := served_default
  obtain ⟨c, hchain, -⟩ :=
    chain_ready hserved (configuredElement_ready 64 64) (greyBuffer 64 64)
  obtain ⟨hresult, hpushed⟩ := chain_pushes hchain
  have htext : c.result = ⟨false, 0, .failed, "model failed"⟩ := hresult.result
  refine ⟨c, _, hchain, hpushed, ?_⟩
  rw [htext]
  exact getLookoutVisionMeta_addMeta rfl (fun _ => List.not_mem_nil)

end LookoutVision
