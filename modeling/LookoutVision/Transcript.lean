import LookoutVision.Agreement
import LookoutVision.ElementRuns
import LookoutVision.StreamText

/-!
# What the plugin prints

The element and its client keep no other record than the lines they write to standard
output: the RPCs that failed, the starts that saw no running model, the verdict on each
frame, the caps without dimensions.  `printing` is the element with the account of each
entry that its lines are made from.

The lines begin with literals of which none is the beginning of another, and a code ends
at the first colon after it, so a line tells what it reports (`LogLine.text_inj`).  So
does the whole output as long as no error text has a line break of its own: two runs that
print the same and complete had the same failures, in the same order, and the same
verdicts as far as they are printed (`output_tells_frames`).  With a line break in an
error text, the output can be that of another run.
-/

namespace LookoutVision

/-! ## Lines -/

/-- What a line begins with, by where it is printed. -/
inductive Heading
  | startModel
  | describeModel
  | detectAnomalies
  | exception
  | notRunning
  | verdict
  | inferenceFailed
  | noDimensions
deriving DecidableEq, Repr

def Heading.text : Heading → List Char
  | .startModel => "StartModel returned error ".toList
  | .describeModel => "DescribeModel failed with error ".toList
  | .detectAnomalies => "DetectAnomalies failed with error ".toList
  | .exception => "Exception: ".toList
  | .notRunning => "Model didn't reach RUNNING state within ".toList
  | .verdict => "Is Anomalous? ".toList
  | .inferenceFailed => "Inference call failed".toList
  | .noDimensions => "no dimensions".toList

/-- A line of the output, by what it reports. -/
inductive LogLine
  | startModel (code : Int) (message : String)
  | describeModel (code : Int) (message : String)
  | detectAnomalies (code : Int) (message : String)
  | exception (what : String)
  | notRunning (modelStatusTimeout : Int)
  | verdict (isAnomalous : Bool) (confidence : List Char)
  | inferenceFailed
  | noDimensions
deriving DecidableEq, Repr

namespace LogLine

def heading : LogLine → Heading
  | .startModel _ _ => .startModel
  | .describeModel _ _ => .describeModel
  | .detectAnomalies _ _ => .detectAnomalies
  | .exception _ => .exception
  | .notRunning _ => .notRunning
  | .verdict _ _ => .verdict
  | .inferenceFailed => .inferenceFailed
  | .noDimensions => .noDimensions

/-- `<< status.error_code() << ": " << status.error_message()`. -/
def statusText (code : Int) (message : String) : List Char :=
  StreamText.ofInt code ++ ':' :: ' ' :: message.toList

/-- What a line has after its heading. -/
def body : LogLine → List Char
  | .startModel code message => statusText code message
  | .describeModel code message => statusText code message
  | .detectAnomalies code message => statusText code message
  | .exception what => what.toList
  | .notRunning modelStatusTimeout => StreamText.ofInt modelStatusTimeout ++ " seconds".toList
  | .verdict isAnomalous confidence =>
      (if isAnomalous then '1' else '0') :: (", Confidence: ".toList ++ confidence)
  | .inferenceFailed => []
  | .noDimensions => []

def text (line : LogLine) : List Char := line.heading.text ++ line.body

end LogLine

/-! ## What is printed -/

/-- What the client prints of how an RPC ended: nothing of an OK status. -/
def RpcOutcome.lines {Reply : Type} (failed : Int → String → LogLine) :
    RpcOutcome Reply → List LogLine
  | .returned status _ =>
      if status.ok then [] else [failed status.errorCode status.errorMessage]
  | .threw what => [.exception what]

def Rpc.lines : Rpc → List LogLine
  | .startModel _ outcome => outcome.lines .startModel
  | .describeModel _ _ outcome _ => outcome.lines .describeModel
  | .detectAnomalies _ outcome => outcome.lines .detectAnomalies

/-- A start prints a line of its own when it fails; the error message goes to the bus. -/
def Effect.lines : Effect → List LogLine
  | .call c => c.rpc.lines
  | .started _ _ timeout status => if status = .successful then [] else [.notRunning timeout]
  | .elementError _ => []
  | .push _ => []

/-- What the chain function prints of its result. -/
def GstLookoutVisionResult.line (result : GstLookoutVisionResult) : LogLine :=
  if result.resultStatus = .successful then
    .verdict result.isAnomalous (StreamText.ofFloat result.confidence)
  else .inferenceFailed

/-- Whether the probe finds no dimensions in an event. -/
def missesDimensions (filter : GstLookoutVision) (event : GstEvent) : Bool :=
  filter.sinkpad.probe && decide ((padProbe filter event).1 = .remove)

/-- The account of an entry: its effects, the result it computed, whether it met caps
without dimensions. -/
structure Account where
  effects : List Effect
  result : Option GstLookoutVisionResult
  missesDimensions : Bool

def Account.lines (account : Account) : List LogLine :=
  account.effects.flatMap Effect.lines ++
    (account.result.map GstLookoutVisionResult.line).toList ++
    if account.missesDimensions then [.noDimensions] else []

def printingStep (e : Element) (i : Input) : Except Fault (Element × Account) :=
  match i.action with
  | .setProperty assignment =>
      match gstLookoutVisionSetProperty i.env e.filter assignment with
      | .error fault => .error fault
      | .ok (filter, effects) => .ok ({ e with filter := filter }, ⟨effects, none, false⟩)
  | .sinkEvent event =>
      .ok ({ e with filter := gstLookoutVisionSinkEvent e.filter event },
        ⟨[], none, missesDimensions e.filter event⟩)
  | .chain buf =>
      match gstLookoutVisionChain i.env e buf with
      | .error fault => .error fault
      | .ok c => .ok (c.element, ⟨c.effects, some c.result, false⟩)

/-- **The element with what it prints.** -/
def printing : Machine Element Input Account Fault := ⟨printingStep⟩

/-- All that an entry that completes can have done, with its account. -/
inductive Printed (env : Environment) (e : Element) : Action → Element → Account → Prop
  | setProperty {assignment : Assignment} {filter : GstLookoutVision} {effects : List Effect}
      (h : gstLookoutVisionSetProperty env e.filter assignment = .ok (filter, effects)) :
      Printed env e (.setProperty assignment) { e with filter := filter } ⟨effects, none, false⟩
  | sinkEvent (event : GstEvent) :
      Printed env e (.sinkEvent event)
        { e with filter := gstLookoutVisionSinkEvent e.filter event }
        ⟨[], none, missesDimensions e.filter event⟩
  | chain {buf : GstBuffer} {c : Chained} (h : gstLookoutVisionChain env e buf = .ok c) :
      Printed env e (.chain buf) c.element ⟨c.effects, some c.result, false⟩

theorem printed_of_step {e e' : Element} {action : Action} {env : Environment}
    {account : Account} (hstep : printing.step e ⟨action, env⟩ = .ok (e', account)) :
    Printed env e action e' account := by
  cases action with
  | setProperty assignment =>
    cases hset : gstLookoutVisionSetProperty env e.filter assignment with
    | error fault =>
      simp only [printing, printingStep, hset] at hstep
      cases hstep
    | ok r =>
      simp only [printing, printingStep, hset] at hstep
      obtain ⟨rfl, rfl⟩ := Prod.mk.inj (Except.ok.inj hstep)
      exact .setProperty hset
  | sinkEvent event =>
    obtain ⟨rfl, rfl⟩ := Prod.mk.inj (Except.ok.inj hstep)
    exact .sinkEvent event
  | chain buf =>
    cases hchain : gstLookoutVisionChain env e buf with
    | error fault =>
      simp only [printing, printingStep, hchain] at hstep
      cases hstep
    | ok c =>
      simp only [printing, printingStep, hchain] at hstep
      obtain ⟨rfl, rfl⟩ := Prod.mk.inj (Except.ok.inj hstep)
      exact .chain hchain

/-- The record of a printing run. -/
abbrev Accounts := List (Input × Account)

namespace Accounts

def lines (h : Accounts) : List LogLine := h.flatMap fun r => r.2.lines

/-- Standard output. -/
def output (h : Accounts) : List Char := StreamText.unlines (h.lines.map LogLine.text)

end Accounts

/-- The printing element is the element. -/
theorem printing_agree (e : Element) (is : List Input) :
    EndAlike (fun x y => x.1 = y.1 ∧
        List.Forall₂ (fun r r' => r.1 = r'.1 ∧ r.2.effects = r'.2) x.2 y.2) Eq
      (printing.run e is) (element.run e is) := by
  refine Machine.run_agree (M := printing) (N := element) (R := Eq)
    (Q := fun _ account effects => account.effects = effects) (F := Eq) ?_ rfl is
    (fun _ _ => trivial)
  rintro t u i rfl (_ : True)
  obtain ⟨action, env⟩ := i
  cases action with
  | setProperty assignment =>
    simp only [printing, printingStep, element, elementStep]
    cases gstLookoutVisionSetProperty env t.filter assignment with
    | error fault => exact .error rfl
    | ok r => exact .ok ⟨rfl, rfl⟩
  | sinkEvent event => exact .ok ⟨rfl, rfl⟩
  | chain buf =>
    simp only [printing, printingStep, element, elementStep]
    cases gstLookoutVisionChain env t buf with
    | error fault => exact .error rfl
    | ok c => exact .ok ⟨rfl, rfl⟩

/-! ## A line tells what it reports -/

/-- **No heading begins another.** -/
theorem Heading.eq_of_prefix {k k' : Heading} (h : k.text <+: k'.text) : k = k' := by
  revert h
  cases k <;> cases k' <;> decide

theorem LogLine.statusText_inj {code code' : Int} {message message' : String}
    (h : statusText code message = statusText code' message') :
    code = code' ∧ message = message' := by
  have hcolon : ∀ n : Int, ':' ∉ StreamText.ofInt n := by
    intro n hmem
    rcases StreamText.mem_ofInt hmem with h | h
    · cases h
    · cases h
  obtain ⟨hcode, hmessage⟩ := StreamText.eq_of_first_mark (hcolon code) (hcolon code') h
  exact ⟨StreamText.ofInt_inj hcode, String.toList_injective (List.cons.inj hmessage).2⟩

/-- Two texts with headings are the same only under the same heading. -/
theorem Heading.append_inj {k k' : Heading} {rest rest' : List Char}
    (h : k.text ++ rest = k'.text ++ rest') : k = k' ∧ rest = rest' := by
  have hk : k = k' := by
    rcases List.prefix_or_prefix_of_prefix (List.prefix_append k.text rest)
      (h ▸ List.prefix_append k'.text rest') with hprefix | hprefix
    · exact Heading.eq_of_prefix hprefix
    · exact (Heading.eq_of_prefix hprefix).symm
  subst hk
  exact ⟨rfl, List.append_cancel_left h⟩

/-- **A line tells what it reports.** -/
theorem LogLine.text_inj {line line' : LogLine} (h : line.text = line'.text) : line = line' := by
  obtain ⟨hheading, hbody⟩ := Heading.append_inj h
  cases line with
  | startModel code message =>
    cases line' with
    | startModel code' message' =>
      obtain ⟨rfl, rfl⟩ := statusText_inj hbody
      rfl
    | _ => cases hheading
  | describeModel code message =>
    cases line' with
    | describeModel code' message' =>
      obtain ⟨rfl, rfl⟩ := statusText_inj hbody
      rfl
    | _ => cases hheading
  | detectAnomalies code message =>
    cases line' with
    | detectAnomalies code' message' =>
      obtain ⟨rfl, rfl⟩ := statusText_inj hbody
      rfl
    | _ => cases hheading
  | exception what =>
    cases line' with
    | exception what' => exact congrArg LogLine.exception (String.toList_injective hbody)
    | _ => cases hheading
  | notRunning timeout =>
    cases line' with
    | notRunning timeout' =>
      exact congrArg LogLine.notRunning (StreamText.ofInt_inj (List.append_cancel_right hbody))
    | _ => cases hheading
  | verdict isAnomalous confidence =>
    cases line' with
    | verdict isAnomalous' confidence' =>
      obtain ⟨hflag, hrest⟩ := List.cons.inj hbody
      obtain rfl := List.append_cancel_left hrest
      cases isAnomalous <;> cases isAnomalous'
      · rfl
      · cases hflag
      · cases hflag
      · rfl
    | _ => cases hheading
  | inferenceFailed =>
    cases line' with
    | inferenceFailed => rfl
    | _ => cases hheading
  | noDimensions =>
    cases line' with
    | noDimensions => rfl
    | _ => cases hheading

/-! ## The output tells its lines -/

/-- The error text of an RPC, if it printed one, has no line break. -/
def RpcOutcome.OneLine {Reply : Type} : RpcOutcome Reply → Prop
  | .returned status _ => status.ok = false → '\n' ∉ status.errorMessage.toList
  | .threw what => '\n' ∉ what.toList

def Rpc.OneLine : Rpc → Prop
  | .startModel _ outcome => outcome.OneLine
  | .describeModel _ _ outcome _ => outcome.OneLine
  | .detectAnomalies _ outcome => outcome.OneLine

/-- Every error text that a run met is one line. -/
def Accounts.OneLine (h : Accounts) : Prop :=
  ∀ r ∈ h, ∀ call, .call call ∈ r.2.effects → call.rpc.OneLine

theorem Heading.newline_notMem (k : Heading) : '\n' ∉ k.text := by
  cases k <;> decide

theorem LogLine.newline_notMem_statusText {code : Int} {message : String}
    (h : '\n' ∉ message.toList) : '\n' ∉ statusText code message := by
  intro hmem
  rcases List.mem_append.mp hmem with hcode | hrest
  · exact StreamText.newline_notMem_ofInt code hcode
  · rcases List.mem_cons.mp hrest with hcolon | hrest
    · cases hcolon
    · rcases List.mem_cons.mp hrest with hblank | hmessage
      · cases hblank
      · exact h hmessage

/-- What the client prints of an RPC's end is one line if the error text is. -/
theorem RpcOutcome.newline_notMem_lines {Reply : Type} {failed : Int → String → LogLine}
    {outcome : RpcOutcome Reply} (h : outcome.OneLine)
    (hfailed : ∀ code message, (failed code message).body = LogLine.statusText code message) :
    ∀ line ∈ outcome.lines failed, '\n' ∉ line.body := by
  intro line hline
  cases outcome with
  | returned status reply =>
    simp only [lines] at hline
    split at hline
    · cases hline
    · rename_i hnot
      obtain rfl := List.mem_singleton.mp hline
      rw [hfailed]
      exact LogLine.newline_notMem_statusText (h (Bool.not_eq_true _ ▸ hnot))
  | threw what =>
    obtain rfl := List.mem_singleton.mp hline
    exact h

theorem Rpc.newline_notMem_lines {rpc : Rpc} (h : rpc.OneLine) :
    ∀ line ∈ rpc.lines, '\n' ∉ line.body := by
  cases rpc with
  | startModel request outcome => exact outcome.newline_notMem_lines h fun _ _ => rfl
  | describeModel request begun outcome latency =>
    exact outcome.newline_notMem_lines h fun _ _ => rfl
  | detectAnomalies request outcome => exact outcome.newline_notMem_lines h fun _ _ => rfl

theorem Effect.newline_notMem_lines {effect : Effect}
    (h : ∀ c, effect = .call c → c.rpc.OneLine) :
    ∀ line ∈ effect.lines, '\n' ∉ line.body := by
  intro line hline
  cases effect with
  | call c => exact Rpc.newline_notMem_lines (h c rfl) line hline
  | started target component timeout status =>
    simp only [lines] at hline
    split at hline
    · cases hline
    · obtain rfl := List.mem_singleton.mp hline
      intro hmem
      rcases List.mem_append.mp hmem with hnumber | hseconds
      · exact StreamText.newline_notMem_ofInt timeout hnumber
      · exact absurd hseconds (by decide)
  | elementError debug => cases hline
  | push buffer => cases hline

theorem GstLookoutVisionResult.newline_notMem_line (result : GstLookoutVisionResult) :
    '\n' ∉ result.line.body := by
  unfold line
  split
  · intro hmem
    rcases List.mem_cons.mp hmem with hflag | hrest
    · split at hflag
      · cases hflag
      · cases hflag
    · rcases List.mem_append.mp hrest with hlabel | hconfidence
      · exact absurd hlabel (by decide)
      · exact StreamText.newline_notMem_ofFloat _ hconfidence
  · exact List.not_mem_nil

/-- **Every line is one line.** -/
theorem Accounts.newline_notMem_lines {h : Accounts} (hone : h.OneLine) :
    ∀ text ∈ h.lines.map LogLine.text, '\n' ∉ text := by
  intro text htext
  obtain ⟨line, hline, rfl⟩ := List.mem_map.mp htext
  obtain ⟨r, hr, hline⟩ := List.mem_flatMap.mp hline
  have hbody : '\n' ∉ line.body := by
    rcases List.mem_append.mp hline with hline | hmissing
    · rcases List.mem_append.mp hline with heffect | hresult
      · obtain ⟨effect, heffect, hline⟩ := List.mem_flatMap.mp heffect
        refine Effect.newline_notMem_lines ?_ line hline
        rintro c rfl
        exact hone r hr c heffect
      · obtain ⟨result, -, rfl⟩ := Option.map_eq_some_iff.mp (Option.mem_toList.mp hresult)
        exact result.newline_notMem_line
    · split at hmissing
      · obtain rfl := List.mem_singleton.mp hmissing
        exact List.not_mem_nil
      · cases hmissing
  intro hmem
  rcases List.mem_append.mp hmem with hheading | hmem
  · exact line.heading.newline_notMem hheading
  · exact hbody hmem

/-- The output of a run tells its lines. -/
theorem Accounts.lines_eq {h h' : Accounts} (hone : h.OneLine) (hone' : h'.OneLine)
    (hsame : h.output = h'.output) : h.lines = h'.lines :=
  List.map_injective_iff.mpr (fun _ _ => LogLine.text_inj)
    (StreamText.unlines_inj (newline_notMem_lines hone) (newline_notMem_lines hone') hsame)

/-! ## What became of each frame -/

/-- What became of a frame: a verdict, as far as it is printed, a `DetectAnomalies` that
failed or threw, or nothing, for want of a component to ask for. -/
inductive FrameOutcome
  | judged (isAnomalous : Bool) (confidence : List Char)
  | failed (status : Status)
  | threw (what : String)
  | unconfigured
deriving DecidableEq, Repr

def RpcOutcome.frame : RpcOutcome DetectAnomaliesResponse → FrameOutcome
  | .returned status reply =>
      if status.ok then
        .judged reply.detectAnomalyResult.isAnomalous
          (StreamText.ofFloat reply.detectAnomalyResult.confidence)
      else .failed status
  | .threw what => .threw what

/-- How the `DetectAnomalies` among some effects ended, if there is one. -/
def detection (effects : List Effect) : Option (RpcOutcome DetectAnomaliesResponse) :=
  effects.findSome? fun
    | .call ⟨_, .detectAnomalies _ outcome⟩ => some outcome
    | _ => none

/-- An entry that computed a result was for a frame. -/
def Account.frame (account : Account) : Option FrameOutcome :=
  account.result.map fun _ =>
    match detection account.effects with
    | none => .unconfigured
    | some outcome => outcome.frame

/-- What became of the frames of a run. -/
def Accounts.frames (h : Accounts) : List FrameOutcome := h.filterMap fun r => r.2.frame

/-- Whether an input is a frame. -/
def Input.isFrame (i : Input) : Bool :=
  match i.action with
  | .chain _ => true
  | _ => false

/-! ### Read off the lines -/

/-- Why an inference failed, by the line before the one that says so. -/
def blame : Option LogLine → FrameOutcome
  | some (.detectAnomalies code message) => .failed ⟨code, message⟩
  | some (.exception what) => .threw what
  | _ => .unconfigured

/-- What the lines after `last` say of the frames. -/
def readFrames : Option LogLine → List LogLine → List FrameOutcome
  | _, [] => []
  | last, line :: rest =>
      match line with
      | .verdict isAnomalous confidence =>
          .judged isAnomalous confidence :: readFrames (some line) rest
      | .inferenceFailed => blame last :: readFrames (some line) rest
      | _ => readFrames (some line) rest

theorem readFrames_append (last : Option LogLine) (lines rest : List LogLine) :
    readFrames last (lines ++ rest) =
      readFrames last lines ++ readFrames (lines.getLast?.or last) rest := by
  induction lines generalizing last with
  | nil => rfl
  | cons line lines ih =>
    have hlast : (line :: lines).getLast?.or last = lines.getLast?.or (some line) := by
      cases lines with
      | nil => rfl
      | cons line' lines =>
        rw [List.getLast?_cons_cons, List.getLast?_eq_some_getLast (List.cons_ne_nil _ _)]
        rfl
    rw [hlast, List.cons_append]
    cases line with
    | verdict isAnomalous confidence =>
      simp only [readFrames, ih, List.cons_append]
    | inferenceFailed => simp only [readFrames, ih, List.cons_append]
    | _ => simp only [readFrames, ih]

/-- The line is about a frame. -/
def LogLine.OfFrame : LogLine → Prop
  | .verdict _ _ => True
  | .inferenceFailed => True
  | _ => False

theorem readFrames_eq_nil {last : Option LogLine} {lines : List LogLine}
    (h : ∀ line ∈ lines, ¬ line.OfFrame) : readFrames last lines = [] := by
  induction lines generalizing last with
  | nil => rfl
  | cons line lines ih =>
    have hline := h line List.mem_cons_self
    have hrest : ∀ last, readFrames last lines = [] := fun _ =>
      ih fun l hl => h l (List.mem_cons_of_mem _ hl)
    cases line with
    | verdict isAnomalous confidence => exact absurd trivial hline
    | inferenceFailed => exact absurd trivial hline
    | _ => exact hrest _

/-- No effect prints a line about a frame. -/
theorem Effect.not_ofFrame {effect : Effect} : ∀ line ∈ effect.lines, ¬ line.OfFrame := by
  have houtcome : ∀ {Reply : Type} (failed : Int → String → LogLine)
      (outcome : RpcOutcome Reply), (∀ code message, ¬ (failed code message).OfFrame) →
      ∀ line ∈ outcome.lines failed, ¬ line.OfFrame := by
    intro Reply failed outcome hfailed line hline
    cases outcome with
    | returned status reply =>
      simp only [RpcOutcome.lines] at hline
      split at hline
      · cases hline
      · obtain rfl := List.mem_singleton.mp hline
        exact hfailed _ _
    | threw what =>
      obtain rfl := List.mem_singleton.mp hline
      exact id
  intro line hline
  cases effect with
  | call c =>
    obtain ⟨target, rpc⟩ := c
    cases rpc with
    | startModel request outcome => exact houtcome _ outcome (fun _ _ => id) line hline
    | describeModel request begun outcome latency =>
      exact houtcome _ outcome (fun _ _ => id) line hline
    | detectAnomalies request outcome => exact houtcome _ outcome (fun _ _ => id) line hline
  | started target component timeout status =>
    simp only [lines] at hline
    split at hline
    · cases hline
    · obtain rfl := List.mem_singleton.mp hline
      exact id
  | elementError debug => cases hline
  | push buffer => cases hline

/-- **The lines of a run say what became of its frames**, and as long as no component is
held, the last of them blames nothing. -/
structure Told (h : Accounts) (e : Element) : Prop where
  frames : readFrames none h.lines = h.frames
  unconfigured : e.filter.modelComponent = none → blame h.lines.getLast? = .unconfigured

section
variable {h : Accounts} {e e' : Element} {i : Input} {account : Account}

theorem Accounts.lines_snoc :
    Accounts.lines (h ++ [(i, account)]) = h.lines ++ account.lines := by
  simp only [lines, List.flatMap_append, List.flatMap_cons, List.flatMap_nil, List.append_nil]

theorem Accounts.frames_snoc :
    Accounts.frames (h ++ [(i, account)]) = h.frames ++ account.frame.toList := by
  simp only [frames, List.filterMap_eq_flatMap_toList, List.flatMap_append,
    List.flatMap_singleton]

/-- An entry that tells of its frame what became of it. -/
theorem Told.snoc (htold : Told h e)
    (hframe : readFrames h.lines.getLast? account.lines = account.frame.toList)
    (hlast : e'.filter.modelComponent = none →
      blame (account.lines.getLast?.or h.lines.getLast?) = .unconfigured) :
    Told (h ++ [(i, account)]) e' where
  frames := by
    rw [Accounts.lines_snoc, Accounts.frames_snoc, readFrames_append, Option.or_none,
      htold.frames, hframe]
  unconfigured := by
    intro hnone
    rw [Accounts.lines_snoc, List.getLast?_append]
    exact hlast hnone

/-- An entry that is not for a frame. -/
theorem Told.silent {effects : List Effect} {missing : Bool} (htold : Told h e)
    (hlast : e'.filter.modelComponent = none →
      blame ((Account.lines ⟨effects, none, missing⟩).getLast?.or h.lines.getLast?) =
        .unconfigured) : Told (h ++ [(i, ⟨effects, none, missing⟩)]) e' := by
  refine htold.snoc (readFrames_eq_nil fun line hline => ?_) hlast
  rcases List.mem_append.mp hline with hline | hmissing
  · rcases List.mem_append.mp hline with heffect | hresult
    · obtain ⟨effect, -, hline⟩ := List.mem_flatMap.mp heffect
      exact Effect.not_ofFrame line hline
    · cases hresult
  · split at hmissing
    · obtain rfl := List.mem_singleton.mp hmissing
      exact id
    · cases hmissing

/-- The last line of a start that failed says so. -/
theorem getLast?_startEffects {env : Environment} {filter : GstLookoutVision}
    {component : String} (hfailed : (filter.start env component).status ≠ .successful) :
    (Account.lines ⟨filter.startEffects env component, none, false⟩).getLast? =
      some (.notRunning filter.modelStatusTimeout.toInt32.toInt) := by
  have hstarted : Effect.lines (.started filter.inferenceClient.stub.channel.target component
      filter.modelStatusTimeout.toInt32.toInt (filter.start env component).status) =
        [.notRunning filter.modelStatusTimeout.toInt32.toInt] := if_neg hfailed
  have herror : Effect.lines (.elementError "Failed to start model") = [] := rfl
  simp only [Account.lines, GstLookoutVision.startEffects, if_neg hfailed, List.flatMap_append,
    List.flatMap_cons, List.flatMap_nil, hstarted, herror, List.append_nil, Option.map_none,
    Option.toList_none, Bool.false_eq_true, if_false, List.getLast?_concat]

theorem told_setProperty {env : Environment} {assignment : Assignment}
    {filter : GstLookoutVision} {effects : List Effect} (htold : Told h e)
    (hstep : gstLookoutVisionSetProperty env e.filter assignment = .ok (filter, effects)) :
    Told (h ++ [(i, ⟨effects, none, false⟩)]) { e with filter := filter } := by
  refine htold.silent fun hnone => ?_
  cases assignment with
  | serverSocket value =>
    cases value with
    | none => cases hstep
    | some socket =>
      rw [setProperty_serverSocket] at hstep
      obtain ⟨rfl, rfl⟩ := Prod.mk.inj (Except.ok.inj hstep)
      have hunset : e.filter.modelComponent = none := hnone
      simp only [hunset]
      exact htold.unconfigured hunset
  | modelComponent value =>
    cases value with
    | none => cases hstep
    | some component =>
      rw [setProperty_modelComponent] at hstep
      obtain ⟨rfl, rfl⟩ := Prod.mk.inj (Except.ok.inj hstep)
      by_cases hstatus : (e.filter.start env component).status = .successful
      · simp only [if_pos hstatus, reduceCtorEq] at hnone
      · rw [getLast?_startEffects hstatus]
        rfl
  | modelStatusTimeout value =>
    obtain ⟨rfl, rfl⟩ := Prod.mk.inj (Except.ok.inj hstep)
    exact htold.unconfigured hnone

theorem told_sinkEvent {event : GstEvent} (htold : Told h e) :
    Told (h ++ [(i, ⟨[], none, missesDimensions e.filter event⟩)])
      { e with filter := gstLookoutVisionSinkEvent e.filter event } := by
  refine htold.silent fun hnone => ?_
  cases missesDimensions e.filter event with
  | true => rfl
  | false =>
    obtain ⟨sinkpad, width, height, hfilter⟩ := sinkEvent_fields e.filter event
    rw [hfilter] at hnone
    exact htold.unconfigured hnone

/-- **A frame's lines.**  Without a component there is one, and the line before it blames
nothing; with one the RPC that failed has its own line just before. -/
theorem told_chain {env : Environment} {buf : GstBuffer} {c : Chained} (htold : Told h e)
    (hchain : gstLookoutVisionChain env e buf = .ok c) :
    Told (h ++ [(i, ⟨c.effects, some c.result, false⟩)]) c.element := by
  rcases chain_ok hchain with ⟨hnone, rfl⟩ | ⟨component, d, hsome, hdetect, rfl⟩
  · refine htold.snoc ?_ fun _ => rfl
    show [blame h.lines.getLast?] = [FrameOutcome.unconfigured]
    rw [htold.unconfigured hnone]
  · refine htold.snoc ?_ fun hnone => ?_
    · obtain ⟨target, hcall, hresult⟩ :=
        LookoutVisionInferenceClient.detectAnomalies_answered hdetect
      have hframe : Account.frame ⟨Chained.effects ⟨⟨{ e.filter with
            inferenceClient := d.client }, d.kernel⟩, [d.call], d.result,
            [(gstBufferAddLookoutVisionMeta buf d.result).1]⟩, some d.result, false⟩ =
          some (env.detectAnomalies target d.request).frame := by
        rw [hcall]
        rfl
      have hlines : Account.lines ⟨Chained.effects ⟨⟨{ e.filter with
            inferenceClient := d.client }, d.kernel⟩, [d.call], d.result,
            [(gstBufferAddLookoutVisionMeta buf d.result).1]⟩, some d.result, false⟩ =
          (env.detectAnomalies target d.request).lines .detectAnomalies ++ [d.result.line] := by
        rw [hcall]
        show (_ ++ []) ++ [d.result.line] ++ [] = _
        rw [List.append_nil, List.append_nil]
        rfl
      rw [hframe, hlines, hresult]
      cases env.detectAnomalies target d.request with
      | threw what => rfl
      | returned status reply =>
        by_cases hok : status.ok = true
        · simp only [RpcOutcome.lines, RpcOutcome.frame, hok, if_true,
            LookoutVisionInferenceClient.detectAnomaliesResult]
          rfl
        · simp only [RpcOutcome.lines, RpcOutcome.frame, hok,
            LookoutVisionInferenceClient.detectAnomaliesResult]
          rfl
    · rw [show e.filter.modelComponent = none from hnone] at hsome
      cases hsome

/-- **One entry.** -/
theorem told_step (htold : Told h e) (hstep : printing.step e i = .ok (e', account)) :
    Told (h ++ [(i, account)]) e' := by
  obtain ⟨action, env⟩ := i
  cases printed_of_step hstep with
  | setProperty hset => exact told_setProperty htold hset
  | sinkEvent event => exact told_sinkEvent htold
  | chain hchain => exact told_chain htold hchain

end

/-! ## Runs -/

/-- The lines of a run say what became of its frames, whatever component is held when it
begins. -/
theorem run_told {e t : Element} {is : List Input} {h : Accounts}
    (hrun : printing.run e is = .ok (t, h)) : Told h t := by
  have hstep : ∀ (h : Accounts) t i t' account, Told h t → True →
      printing.step t i = .ok (t', account) → Told (h ++ [(i, account)]) t' :=
    fun _ _ _ _ _ htold _ hstep => told_step htold hstep
  have hnone : Told [] e := ⟨rfl, fun _ => rfl⟩
  exact Machine.run_preserves hnone hstep (fun _ _ => trivial) hrun

/-- A frame, and nothing else, has an outcome in its account. -/
theorem isFrame_of_step {e e' : Element} {i : Input} {account : Account}
    (hstep : printing.step e i = .ok (e', account)) :
    account.frame.toList.length = if i.isFrame then 1 else 0 := by
  obtain ⟨action, env⟩ := i
  cases printed_of_step hstep with
  | setProperty hset => rfl
  | sinkEvent event => rfl
  | chain hchain => rfl

/-- Every frame has its outcome. -/
theorem frames_length {e t : Element} {is : List Input} {h : Accounts}
    (hrun : printing.run e is = .ok (t, h)) : h.frames.length = is.countP Input.isFrame := by
  induction is using List.reverseRecOn generalizing t h with
  | nil =>
    obtain ⟨-, rfl⟩ := Prod.mk.inj (Except.ok.inj hrun)
    rfl
  | append_singleton is i ih =>
    obtain ⟨t₀, h₀, account, hpre, hstep, rfl⟩ := Machine.run_snoc_inv hrun
    rw [Accounts.frames_snoc, List.length_append, ih hpre, isFrame_of_step hstep,
      List.countP_append, List.countP_singleton]

/-- **The output tells what became of the frames.**  Two runs that print the same, and
meet only error texts of one line, have printed the same lines, took as many frames, and
the same became of these, one by one: the verdict as far as it is printed, or the error,
or that there was no component to ask for. -/
theorem output_tells_frames {e e' t t' : Element} {is is' : List Input} {h h' : Accounts}
    (hrun : printing.run e is = .ok (t, h)) (hrun' : printing.run e' is' = .ok (t', h'))
    (hone : h.OneLine) (hone' : h'.OneLine) (hsame : h.output = h'.output) :
    h.lines = h'.lines ∧ h.frames = h'.frames ∧
      is.countP Input.isFrame = is'.countP Input.isFrame := by
  have hlines : h.lines = h'.lines := Accounts.lines_eq hone hone' hsame
  have hframes : h.frames = h'.frames := by
    rw [← (run_told hrun).frames, hlines, (run_told hrun').frames]
  refine ⟨hlines, hframes, ?_⟩
  rw [← frames_length hrun, hframes, frames_length hrun']

/-- An instance that holds a component. -/
def holding (component : String) : Element :=
  ⟨⟨⟨true⟩, ⟨"socket", ⟨"socket"⟩, ⟨⟨"socket"⟩⟩, none⟩, 0, 0, some "socket", some component, 180⟩,
    Posix.Kernel.empty⟩

/-- Agents that throw when they are asked about a frame. -/
def throwing : Environment :=
  { Environment.steady fun _ _ => true with detectAnomalies := fun _ _ => .threw "closed" }

/-- Two instances of different components print the same of different frames. -/
theorem output_tells_frames_sample :
    ∃ (t t' : Element) (h h' : Accounts), printing.run (holding "A")
        [⟨.chain ⟨[7], 1, []⟩, throwing⟩] = .ok (t, h) ∧
      printing.run (holding "B")
        [⟨.sinkEvent (.caps ⟨some 1, some 1⟩), throwing⟩, ⟨.chain ⟨[8], 2, []⟩, throwing⟩] =
          .ok (t', h') ∧
      h.OneLine ∧ h'.OneLine ∧ h.output = h'.output ∧
      h.lines = h'.lines ∧ h.frames = h'.frames ∧
      [(⟨.chain ⟨[7], 1, []⟩, throwing⟩ : Input)].countP Input.isFrame =
        [(⟨.sinkEvent (.caps ⟨some 1, some 1⟩), throwing⟩ : Input),
          ⟨.chain ⟨[8], 2, []⟩, throwing⟩].countP Input.isFrame := by
  obtain ⟨t, h, hrun, hone, hlines⟩ : ∃ (t : Element) (h : Accounts), printing.run (holding "A")
      [⟨.chain ⟨[7], 1, []⟩, throwing⟩] = .ok (t, h) ∧ h.OneLine ∧
        h.lines = [.exception "closed", .inferenceFailed] := by
    refine ⟨_, _, rfl, ?_, rfl⟩
    intro r hr call hcall
    obtain rfl := List.mem_singleton.mp hr
    rcases List.mem_cons.mp hcall with hcall | hcall
    · rw [Effect.call.inj hcall]
      show '\n' ∉ "closed".toList
      decide
    · cases List.mem_singleton.mp hcall
  obtain ⟨t', h', hrun', hone', hlines'⟩ : ∃ (t : Element) (h : Accounts),
      printing.run (holding "B")
      [⟨.sinkEvent (.caps ⟨some 1, some 1⟩), throwing⟩, ⟨.chain ⟨[8], 2, []⟩, throwing⟩] =
        .ok (t, h) ∧ h.OneLine ∧ h.lines = [.exception "closed", .inferenceFailed] := by
    refine ⟨_, _, rfl, ?_, rfl⟩
    intro r hr call hcall
    rcases List.mem_cons.mp hr with rfl | hr
    · cases hcall
    obtain rfl := List.mem_singleton.mp hr
    rcases List.mem_cons.mp hcall with hcall | hcall
    · rw [Effect.call.inj hcall]
      show '\n' ∉ "closed".toList
      decide
    · cases List.mem_singleton.mp hcall
  have hsame : h.output = h'.output := by
    unfold Accounts.output
    rw [hlines, hlines']
  exact ⟨t, t', h, h', hrun, hrun', hone, hone', hsame,
    output_tells_frames hrun hrun' hone hone' hsame⟩

/-- With a line break in an error text, one line passes for two. -/
example : StreamText.unlines ([.exception "e\nInference call failed"].map LogLine.text) =
    StreamText.unlines ([.exception "e", .inferenceFailed].map LogLine.text) := by
  decide

end LookoutVision
