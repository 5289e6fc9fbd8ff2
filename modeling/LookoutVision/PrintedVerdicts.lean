import LookoutVision.FrameResult
import LookoutVision.SignificantDigits
import LookoutVision.Transcript

/-!
# What the output says of the metas

The chain function prints a result and hands it on with the buffer.  The two are made
from the same object, so where a frame comes writable and without a meta of the plugin,
the line says what the next reader finds in it: the verdict, and the confidence to within
a two hundred thousandth.

Two runs that print the same have therefore handed on as many buffers, and whoever reads
one and its counterpart finds the same verdict in both, or none in either
(`output_tells_metas`).
-/

namespace LookoutVision

/-! ## What a reader finds -/

/-- A reader of the buffer finds this result. -/
def Shows (out : GstBuffer) (result : GstLookoutVisionResult) : Prop :=
  gstBufferGetMeta out = some ⟨some result⟩

/-- A frame nobody else holds, and nobody has judged. -/
def GstBuffer.Fresh (buffer : GstBuffer) : Prop :=
  buffer.Writable ∧ ∀ value, GstMeta.lookoutVision value ∉ buffer.metas

/-- A frame is a fresh one. -/
def Input.Fresh (i : Input) : Prop := ∀ buf, i.action = .chain buf → buf.Fresh

theorem shows_addMeta {buf : GstBuffer} (h : buf.Fresh) (result : GstLookoutVisionResult) :
    Shows (gstBufferAddLookoutVisionMeta buf result).1 result := by
  have hnone : buf.metas.findSome? GstMeta.lookoutVision? = none := by
    refine List.findSome?_eq_none_iff.mpr fun m hm => ?_
    cases m with
    | other api => rfl
    | lookoutVision value => exact absurd hm (h.2 value)
  rw [addMeta_writable h.1]
  unfold Shows gstBufferGetMeta
  rw [List.findSome?_append, hnone]
  rfl

/-- A buffer on its way down the pipeline. -/
def Effect.pushed? : Effect → Option GstBuffer
  | .push buffer => some buffer
  | _ => none

def Account.pushes (account : Account) : List GstBuffer :=
  account.effects.filterMap Effect.pushed?

namespace Accounts

/-- The buffers handed on, in order. -/
def pushes (h : Accounts) : List GstBuffer := h.flatMap fun r => r.2.pushes

/-- The results computed, in order. -/
def results (h : Accounts) : List GstLookoutVisionResult := h.filterMap fun r => r.2.result

variable {h : Accounts} {i : Input} {account : Account}

theorem pushes_snoc : pushes (h ++ [(i, account)]) = h.pushes ++ account.pushes := by
  simp only [pushes, List.flatMap_append, List.flatMap_cons, List.flatMap_nil, List.append_nil]

theorem results_snoc : results (h ++ [(i, account)]) = h.results ++ account.result.toList := by
  simp only [results, List.filterMap_eq_flatMap_toList, List.flatMap_append,
    List.flatMap_singleton]

end Accounts

/-! ## Every result is handed on -/

/-- Assignments hand nothing on. -/
theorem pushes_setProperty {env : Environment} {filter filter' : GstLookoutVision}
    {assignment : Assignment} {effects : List Effect}
    (h : gstLookoutVisionSetProperty env filter assignment = .ok (filter', effects)) :
    effects.filterMap Effect.pushed? = [] := by
  have hstart : ∀ (filter : GstLookoutVision) (component : String),
      (filter.startEffects env component).filterMap Effect.pushed? = [] := by
    intro filter component
    refine List.filterMap_eq_nil_iff.mpr fun effect heffect => ?_
    rcases List.mem_append.mp heffect with heffect | herror
    · rcases List.mem_append.mp heffect with hcall | hstarted
      · obtain ⟨call, -, rfl⟩ := List.mem_map.mp hcall
        rfl
      · obtain rfl := List.mem_singleton.mp hstarted
        rfl
    · split at herror
      · cases herror
      · obtain rfl := List.mem_singleton.mp herror
        rfl
  cases assignment with
  | serverSocket value =>
    cases value with
    | none => cases h
    | some socket =>
      rw [setProperty_serverSocket] at h
      obtain ⟨-, rfl⟩ := Prod.mk.inj (Except.ok.inj h)
      split
      · rfl
      · exact hstart _ _
  | modelComponent value =>
    cases value with
    | none => cases h
    | some component =>
      rw [setProperty_modelComponent] at h
      obtain ⟨-, rfl⟩ := Prod.mk.inj (Except.ok.inj h)
      exact hstart _ _
  | modelStatusTimeout value =>
    obtain ⟨-, rfl⟩ := Prod.mk.inj (Except.ok.inj h)
    rfl

/-- **One entry** hands on a buffer for every result, and the result with it. -/
theorem shows_step {e e' : Element} {i : Input} {account : Account} (hfresh : i.Fresh)
    (hstep : printing.step e i = .ok (e', account)) :
    List.Forall₂ Shows account.pushes account.result.toList := by
  obtain ⟨action, env⟩ := i
  cases printed_of_step hstep with
  | @setProperty assignment filter effects hset =>
    show List.Forall₂ Shows (effects.filterMap Effect.pushed?) []
    rw [pushes_setProperty hset]
    exact List.Forall₂.nil
  | sinkEvent event => exact List.Forall₂.nil
  | @chain buf c hchain =>
    have hcalls : (c.calls.map Effect.call).filterMap Effect.pushed? = [] := by
      refine List.filterMap_eq_nil_iff.mpr fun effect heffect => ?_
      obtain ⟨call, -, rfl⟩ := List.mem_map.mp heffect
      rfl
    have hpushes : Account.pushes ⟨c.effects, some c.result, false⟩ =
        [(gstBufferAddLookoutVisionMeta buf c.result).1] := by
      unfold Account.pushes Chained.effects
      rw [(chain_pushes hchain).2, List.filterMap_append, hcalls]
      rfl
    rw [hpushes]
    exact List.Forall₂.cons (shows_addMeta (hfresh buf rfl) c.result) List.Forall₂.nil

/-- Of a run on fresh frames, every buffer handed on shows its result. -/
theorem run_shows {e t : Element} {is : List Input} {h : Accounts}
    (hfresh : ∀ i ∈ is, i.Fresh) (hrun : printing.run e is = .ok (t, h)) :
    List.Forall₂ Shows h.pushes h.results := by
  have hnone : List.Forall₂ Shows (Accounts.pushes []) (Accounts.results []) :=
    List.Forall₂.nil
  have hstep : ∀ (h : Accounts) (t : Element) (i : Input) (t' : Element) (account : Account),
      List.Forall₂ Shows h.pushes h.results → i.Fresh →
      printing.step t i = .ok (t', account) →
      List.Forall₂ Shows (Accounts.pushes (h ++ [(i, account)]))
        (Accounts.results (h ++ [(i, account)])) := by
    intro h t i t' account hshows hi hstep
    rw [Accounts.pushes_snoc, Accounts.results_snoc]
    exact List.rel_append hshows (shows_step hi hstep)
  exact Machine.run_preserves hnone hstep hfresh hrun

/-! ## Every result is printed -/

/-- Two results that a line does not tell apart. -/
structure GstLookoutVisionResult.Alike (result result' : GstLookoutVisionResult) : Prop where
  status : result.resultStatus = .successful ↔ result'.resultStatus = .successful
  verdict : result.resultStatus = .successful → result.isAnomalous = result'.isAnomalous
  confidence : result.resultStatus = .successful →
    StreamText.Alike StreamText.sixDigits result.confidence result'.confidence

/-- **One line** tells the verdict, and the confidence as far as its digits go. -/
theorem alike_of_line {result result' : GstLookoutVisionResult}
    (h : result.line = result'.line) : result.Alike result' := by
  unfold GstLookoutVisionResult.line at h
  by_cases hstatus : result.resultStatus = .successful
  · by_cases hstatus' : result'.resultStatus = .successful
    · rw [if_pos hstatus, if_pos hstatus'] at h
      obtain ⟨hverdict, htext⟩ := LogLine.verdict.inj h
      exact ⟨iff_of_true hstatus hstatus', fun _ => hverdict,
        fun _ => StreamText.alike_of_ofFloat htext⟩
    · rw [if_pos hstatus, if_neg hstatus'] at h
      cases h
  · by_cases hstatus' : result'.resultStatus = .successful
    · rw [if_neg hstatus, if_pos hstatus'] at h
      cases h
    · exact ⟨iff_of_false hstatus hstatus', fun hs => absurd hs hstatus,
        fun hs => absurd hs hstatus⟩

instance : DecidablePred LogLine.OfFrame := fun line => by
  cases line <;> unfold LogLine.OfFrame <;> infer_instance

theorem GstLookoutVisionResult.line_ofFrame (result : GstLookoutVisionResult) :
    result.line.OfFrame := by
  unfold line
  split <;> trivial

/-- The lines about frames are those of the results. -/
theorem Account.filter_lines (account : Account) :
    account.lines.filter (fun line => decide line.OfFrame) =
      (account.result.map GstLookoutVisionResult.line).toList := by
  have heffects : (account.effects.flatMap Effect.lines).filter
      (fun line => decide line.OfFrame) = [] := by
    refine List.filter_eq_nil_iff.mpr fun line hline => ?_
    obtain ⟨effect, -, hline⟩ := List.mem_flatMap.mp hline
    simpa using Effect.not_ofFrame line hline
  have hmissing : (if account.missesDimensions then [LogLine.noDimensions] else []).filter
      (fun line => decide line.OfFrame) = [] := by
    split
    · rfl
    · rfl
  have hresult : (account.result.map GstLookoutVisionResult.line).toList.filter
      (fun line => decide line.OfFrame) =
        (account.result.map GstLookoutVisionResult.line).toList := by
    refine List.filter_eq_self.mpr fun line hline => ?_
    obtain ⟨result, -, rfl⟩ := Option.map_eq_some_iff.mp (Option.mem_toList.mp hline)
    simpa using result.line_ofFrame
  unfold Account.lines
  rw [List.filter_append, List.filter_append, heffects, hmissing, hresult, List.append_nil,
    List.nil_append]

theorem Accounts.filter_lines (h : Accounts) :
    h.lines.filter (fun line => decide line.OfFrame) =
      h.results.map GstLookoutVisionResult.line := by
  unfold lines results
  induction h with
  | nil => rfl
  | cons r h ih =>
    rw [List.flatMap_cons, List.filter_append, ih, Account.filter_lines]
    cases hresult : r.2.result with
    | none => simp [hresult]
    | some result => simp [hresult]

/-- Results whose lines are the same. -/
theorem results_alike {results results' : List GstLookoutVisionResult}
    (h : results.map GstLookoutVisionResult.line = results'.map GstLookoutVisionResult.line) :
    List.Forall₂ GstLookoutVisionResult.Alike results results' := by
  induction results generalizing results' with
  | nil =>
    obtain rfl := List.map_eq_nil_iff.mp h.symm
    exact List.Forall₂.nil
  | cons result results ih =>
    cases results' with
    | nil => cases h
    | cons result' results' =>
      obtain ⟨hline, hrest⟩ := List.cons.inj h
      exact List.Forall₂.cons (alike_of_line hline) (ih hrest)

/-! ## The output and the metas -/

/-- Readers of the two buffers find alike results. -/
def ShowAlike (out out' : GstBuffer) : Prop :=
  ∃ result result', Shows out result ∧ Shows out' result' ∧ result.Alike result'

/-- Buffers that show results that are alike. -/
theorem show_alike {outs outs' : List GstBuffer} {results results' : List GstLookoutVisionResult}
    (hshows : List.Forall₂ Shows outs results) (hshows' : List.Forall₂ Shows outs' results')
    (halike : List.Forall₂ GstLookoutVisionResult.Alike results results') :
    List.Forall₂ ShowAlike outs outs' := by
  induction halike generalizing outs outs' with
  | nil =>
    cases hshows
    cases hshows'
    exact List.Forall₂.nil
  | cons hresult _ ih =>
    cases hshows with
    | cons hout hrest =>
      cases hshows' with
      | cons hout' hrest' =>
        exact List.Forall₂.cons ⟨_, _, hout, hout', hresult⟩ (ih hrest hrest')

/-- **The output tells what readers find.**  Two runs on fresh frames that print the same,
and meet only error texts of one line, hand on as many buffers; and one by one, whoever
reads them finds two verdicts that agree and two confidences that are nearly the same, or
two failures. -/
theorem output_tells_metas {e e' t t' : Element} {is is' : List Input} {h h' : Accounts}
    (hfresh : ∀ i ∈ is, i.Fresh) (hfresh' : ∀ i ∈ is', i.Fresh)
    (hrun : printing.run e is = .ok (t, h)) (hrun' : printing.run e' is' = .ok (t', h'))
    (hone : h.OneLine) (hone' : h'.OneLine) (hsame : h.output = h'.output) :
    List.Forall₂ ShowAlike h.pushes h'.pushes := by
  have hlines : h.lines = h'.lines := Accounts.lines_eq hone hone' hsame
  have hresults : h.results.map GstLookoutVisionResult.line =
      h'.results.map GstLookoutVisionResult.line := by
    rw [← h.filter_lines, hlines, h'.filter_lines]
  exact show_alike (run_shows hfresh hrun) (run_shows hfresh' hrun') (results_alike hresults)

/-- Agents that find an anomaly, with this confidence. -/
def judging (confidence : UInt32) : Environment :=
  { Environment.steady fun _ _ => true with
    detectAnomalies := fun _ _ => .returned .success ⟨⟨true, confidence⟩⟩ }

/-- One frame, before such an agent. -/
def judgedFrame (confidence : UInt32) : List Input :=
  [⟨.chain ⟨[7], 1, []⟩, judging confidence⟩]

theorem judgedFrame_fresh (confidence : UInt32) : ∀ i ∈ judgedFrame confidence, i.Fresh := by
  intro i hi buf hbuf
  obtain rfl := List.mem_singleton.mp hi
  obtain rfl := Action.chain.inj hbuf
  exact ⟨rfl, fun _ => List.not_mem_nil⟩

theorem run_judgedFrame (confidence : UInt32) :
    ∃ (t : Element) (h : Accounts), printing.run (holding "A") (judgedFrame confidence) =
        .ok (t, h) ∧ h.OneLine ∧
      h.lines = [.verdict true (StreamText.ofFloat confidence)] := by
  refine ⟨_, _, rfl, ?_, rfl⟩
  intro r hr call hcall
  obtain rfl := List.mem_singleton.mp hr
  rcases List.mem_cons.mp hcall with hcall | hcall
  · rw [Effect.call.inj hcall]
    intro hok
    cases hok
  · cases List.mem_singleton.mp hcall

/-- Confidences that differ in their last bit. -/
theorem output_tells_metas_sample :
    ∃ (t t' : Element) (h h' : Accounts),
      printing.run (holding "A") (judgedFrame 0x3F7D70A4) = .ok (t, h) ∧
      printing.run (holding "A") (judgedFrame 0x3F7D70A5) = .ok (t', h') ∧
      h.OneLine ∧ h'.OneLine ∧ h.output = h'.output ∧
      List.Forall₂ ShowAlike h.pushes h'.pushes := by
  obtain ⟨t, h, hrun, hone, hlines⟩ := run_judgedFrame 0x3F7D70A4
  obtain ⟨t', h', hrun', hone', hlines'⟩ := run_judgedFrame 0x3F7D70A5
  have htext : StreamText.ofFloat 0x3F7D70A4 = StreamText.ofFloat 0x3F7D70A5 := by
    decide +kernel
  have hsame : h.output = h'.output := by
    unfold Accounts.output
    rw [hlines, hlines', htext]
  exact ⟨t, t', h, h', hrun, hrun', hone, hone', hsame,
    output_tells_metas (judgedFrame_fresh _) (judgedFrame_fresh _) hrun hrun' hone hone' hsame⟩

end LookoutVision
