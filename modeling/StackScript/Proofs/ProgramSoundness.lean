import StackScript.CommandLine.Commands
import StackScript.Proofs.DecodingFailures
import StackScript.Proofs.ValueSoundness

/-!
# Soundness of the program

The bytes and the documents that the program reads as scripts give calculations, and
nothing else.  On calculations the machine is sound, except for limits that are too long
to be shown, and the program reads no such limit.  So a run of the program handles every
fault of the machine and can show every result.
-/

namespace StackScript

/-! ## Scripts that the program reads -/

theorem exists_of_map_eq_ok {ε α β : Type} {outcome : Except ε α}
    {function : α → β} {result : β}
    (mapped : outcome.map function = .ok result) :
    ∃ given, outcome = .ok given ∧ function given = result := by
  cases outcome with
  | ok given =>
      cases mapped
      exact ⟨given, rfl, rfl⟩
  | error fault => cases mapped

theorem eq_ok_of_toOption {ε α : Type} {outcome : Except ε α} {result : α}
    (succeeded : outcome.toOption = some result) : outcome = .ok result := by
  cases outcome with
  | ok given =>
      cases succeeded
      rfl
  | error fault => cases succeeded

theorem exists_of_bind_eq_ok {ε α β : Type} {outcome : Except ε α}
    {next : α → Except ε β} {result : β} (bound : outcome >>= next = .ok result) :
    ∃ given, outcome = .ok given ∧ next given = .ok result := by
  cases outcome with
  | ok given => exact ⟨given, rfl, bound⟩
  | error fault => cases bound

theorem Wire.isCalculation_of_decode {data : Array UInt8} {script : Script}
    (decoded : decode (some instructionTable) data = .ok script) :
    ∀ item ∈ script, item.IsCalculation := by
  have chunks := decode_eq_ok_iff.mp decoded
  clear decoded
  generalize data.toList = bytes at chunks
  induction chunks with
  | nil => exact fun _ member => nomatch member
  | @cons item script part bytes first others ih =>
      apply List.forall_mem_cons.mpr ⟨?_, ih⟩
      cases item with
      | operator held =>
          obtain ⟨known, rfl, _⟩ := chunk_operator_iff.mp first
          exact .instruction known
      | datum held =>
          cases first <;> exact .value _

namespace Schema

/-- What an element holds, if an operator, is an instruction. -/
def Content.IsCalculation : Content → Prop
  | .operator known => (Item.operator known).IsCalculation
  | _ => True

variable {place : List Step} {entries : List (Text × Document)}
  {content : Content}

theorem isCalculation_of_checkValue {kind : Value.Kind} {document : Document}
    (accepted : checkValue place kind document = .ok content) :
    content.IsCalculation := by
  cases content with
  | operator known =>
      -- No value is accepted as an operator.
      unfold checkValue at accepted
      split at accepted
      case h_3 =>
          split at accepted
          · cases accepted
          · split at accepted <;> cases accepted
      all_goals cases accepted
  | _ => trivial

theorem isCalculation_of_checkField {kind : Value.Kind}
    (accepted : checkField place entries kind = .ok (some content)) :
    content.IsCalculation := by
  unfold checkField at accepted
  split at accepted
  · cases accepted
  · cases accepted
  · obtain ⟨held, checked, heldEq⟩ := exists_of_map_eq_ok accepted
    cases heldEq
    exact isCalculation_of_checkValue checked

theorem isCalculation_of_resolve {document : Document} {operator : Operator}
    (resolved : resolve (some instructionNames) document = .ok operator) :
    (Item.operator operator).IsCalculation := by
  cases document with
  | string name =>
      cases named : Instruction.ofName? name with
      | some known =>
          simp only [resolve, instructionNames, named, Option.map_some] at resolved
          cases resolved
          exact .instruction known
      | none => simp [resolve, instructionNames, named] at resolved
  | _ =>
      simp only [resolve] at resolved
      split at resolved <;> cases resolved

theorem isCalculation_of_checkOperator
    (accepted : checkOperator (some instructionNames) none place entries =
      .ok (some content)) :
    content.IsCalculation := by
  unfold checkOperator at accepted
  cases written : Document.entry? operatorKey entries with
  | none => simp [written] at accepted
  | some document =>
      cases resolved : resolve (some instructionNames) document with
      | ok operator =>
          simp [written, resolved] at accepted
          subst accepted
          exact isCalculation_of_resolve resolved
      | error cause => simp [written, resolved] at accepted

theorem eq_ok_of_result? {α : Type} {check : Check (Option α)} {given : α}
    (found : result? check = some given) : check = .ok (some given) := by
  cases check with
  | ok result =>
      cases found
      rfl
  | error problems => cases found

theorem isCalculation_of_checkEntries
    (accepted : checkEntries (some instructionNames) none place entries =
      .ok content) :
    content.IsCalculation := by
  simp only [checkEntries] at accepted
  split at accepted
  · cases accepted
  split at accepted
  · split at accepted
    · next single =>
        cases accepted
        have member : content ∈ (kinds.map (checkField place entries) ++
            [checkOperator (some instructionNames) none place entries]).filterMap
              result? := by
          rw [single]
          exact List.mem_singleton_self content
        obtain ⟨check, checkMember, given⟩ := List.mem_filterMap.mp member
        have checkEq : check = .ok (some content) := eq_ok_of_result? given
        simp only [List.mem_append, List.mem_map, List.mem_singleton] at checkMember
        rcases checkMember with ⟨kind, _, rfl⟩ | rfl
        · exact isCalculation_of_checkField checkEq
        · exact isCalculation_of_checkOperator checkEq
    · cases accepted
  · cases accepted

theorem isCalculation_of_checkElements {form : Form} {elements : List Document}
    {position : Nat} {contents : List Content}
    (accepted : checkElements (some instructionNames) form (fun _ => none) position
      elements = .ok contents) :
    ∀ content ∈ contents, content.IsCalculation := by
  induction elements generalizing position contents with
  | nil =>
      cases accepted
      exact fun _ member => nomatch member
  | cons element rest ih =>
      simp only [checkElements] at accepted
      split at accepted
      · next content others firstEq othersEq =>
          cases accepted
          refine List.forall_mem_cons.mpr ⟨?_, ih othersEq⟩
          cases element with
          | object entries => exact isCalculation_of_checkEntries firstEq
          | _ => cases firstEq
      · cases accepted

theorem isCalculation_of_toItem {item : Item} (calculation : content.IsCalculation)
    (built : content.toItem = .ok item) : item.IsCalculation := by
  cases content with
  | operator known =>
      cases built
      exact calculation
  | floatOfInteger number =>
      obtain ⟨held, _, rfl⟩ := exists_of_map_eq_ok built
      exact .value held
  | _ =>
      cases built
      exact .value _

theorem isCalculation_of_toItems {contents : List Content} {script : Script}
    (calculations : ∀ content ∈ contents, content.IsCalculation)
    (built : toItems contents = .ok script) :
    ∀ item ∈ script, item.IsCalculation := by
  induction contents generalizing script with
  | nil =>
      cases built
      exact fun _ member => nomatch member
  | cons content rest ih =>
      obtain ⟨first, others⟩ := List.forall_mem_cons.mp calculations
      simp only [toItems] at built
      split at built
      · cases built
      · next item itemEq =>
          obtain ⟨items, othersBuilt, rfl⟩ := exists_of_map_eq_ok built
          exact List.forall_mem_cons.mpr
            ⟨isCalculation_of_toItem first itemEq, ih others othersBuilt⟩

theorem isCalculation_of_finish {form : Form} {document : Document}
    {script : Script}
    (finished : finish (check (some instructionNames) form (fun _ => none)
      document) = .ok script) :
    ∀ item ∈ script, item.IsCalculation := by
  cases document with
  | array elements =>
      simp only [check, finish] at finished
      split at finished
      · cases finished
      · next accepted =>
          have calculations := isCalculation_of_checkElements accepted
          split at finished
          · next built =>
              cases finished
              exact isCalculation_of_toItems calculations built
          · cases finished
  | _ => cases finished

theorem isCalculation_of_scriptOf {document : Document} {script : Script}
    (read : scriptOf (some instructionNames) document = .ok script) :
    ∀ item ∈ script, item.IsCalculation := by
  simp only [scriptOf, scriptOfResolved] at read
  split at read
  · simp only [scriptOfText, scriptOfStrict] at read
    split at read
    · cases read
    · split at read
      · exact isCalculation_of_finish read
      · cases read
  · exact isCalculation_of_finish read

end Schema

namespace CommandLine

theorem isCalculation_of_scriptToRun {entryAt : String → Entry}
    {settings : RunSettings} {operand : String} {script : Script}
    (read : scriptToRun entryAt settings operand = .ok script) :
    ∀ item ∈ script, item.IsCalculation := by
  unfold scriptToRun at read
  split at read
  · simp only [scriptInDigits] at read
    split at read
    · cases read
    · split at read
      · cases read
      · next decoded =>
          cases read
          exact Wire.isCalculation_of_decode decoded
  · simp only [scriptInFile, scriptInDocument] at read
    split at read
    · cases read
    · split at read
      · cases read
      · split at read
        · cases read
        · cases read
        · next found =>
            cases read
            exact Schema.isCalculation_of_scriptOf found

/-- A run handles its fault if that is a defined one, and it shows its result if
that is a script value. -/
theorem unhandled_runReport {asDocument : Bool}
    {ended : EStateM.Result Fault Machine (Option Datum)}
    (sound : match ended with
      | .ok top _ => ∀ datum, top = some datum → datum.IsValue
      | .error fault _ => fault.isDefined = true) :
    (runReport asDocument ended).unhandled = none := by
  cases ended with
  | error fault machine =>
      simp only [runReport, sound]
      cases asDocument <;> rfl
  | ok top machine =>
      cases top with
      | none => cases asDocument <;> rfl
      | some datum =>
          obtain ⟨value, rfl⟩ := sound datum rfl
          cases asDocument <;> rfl

/-! ## Limits that the program reads -/

/-- Neither limit of the run is too long to be shown. -/
def RunSettings.HasShownLimits (settings : RunSettings) : Prop :=
  ∀ limit, settings.maxSteps = some limit ∨ settings.maxStackSize = some limit →
    Text.isLongInteger limit = false

theorem isLongInteger_of_integer? {arguments : Arguments} {name : String} {limit : Int}
    (read : arguments.integer? name = .ok (some limit)) :
    Text.isLongInteger limit = false := by
  simp only [Arguments.integer?] at read
  split at read
  · cases read
  · split at read
    · next found =>
        cases read
        exact Text.isLongInteger_of_readInteger? found
    · cases read

theorem hasShownLimits_of_readRunArguments {arguments : List String}
    {settings : RunSettings} {operand : String}
    (read : readRunArguments arguments = .ok (settings, operand)) :
    settings.HasShownLimits := by
  obtain ⟨given, _, read⟩ := exists_of_bind_eq_ok read
  dsimp only at read
  split at read
  · cases read
  obtain ⟨_, _, read⟩ := exists_of_bind_eq_ok read
  obtain ⟨maxStackSize, stackSizeRead, read⟩ := exists_of_bind_eq_ok read
  obtain ⟨maxSteps, stepsRead, read⟩ := exists_of_bind_eq_ok read
  cases read
  rintro limit (rfl | rfl)
  · exact isLongInteger_of_integer? stepsRead
  · exact isLongInteger_of_integer? stackSizeRead

/-! ## Runs of the program -/

/-- A run of the program handles every fault of the machine and shows every
result. -/
theorem unhandled_run {entryAt : String → Entry} {verbose : Bool}
    {settings : RunSettings} {operand : String} {script : Script}
    (shown : settings.HasShownLimits)
    (read : scriptToRun entryAt settings operand = .ok script) :
    (run entryAt verbose settings operand).unhandled = none := by
  simp only [run, read, Report.afterJournal]
  apply unhandled_runReport
  have calculations := isCalculation_of_scriptToRun read
  have sound := Machine.endsIn_run
    (fun item member machine => Machine.endsIn_operate_of_isCalculation
      (calculations item member) settings.maxSteps machine)
    (Machine.isSound_start settings.maxStackSize)
  cases ended : Machine.run ⟨Calculator.system, settings.maxSteps⟩ script
      (Machine.start settings.maxStackSize) with
  | ok top reached =>
      rw [ended] at sound
      rw [Machine.top_of_run ended]
      exact fun datum => Machine.isValue_of_top? sound.2
  | error fault reached =>
      rw [ended] at sound
      rcases sound.2 with defined | ⟨limit, long, ⟨given, _⟩ | ⟨given, _⟩⟩
      · exact defined
      · rw [shown limit (.inl given)] at long
        cases long
      · rw [shown limit (.inr given)] at long
        cases long

end CommandLine

namespace Machine

theorem operate_datum_of_nonpos {limit : Int} (nonpos : limit ≤ 0) (datum : Datum) :
    operate { system := Calculator.system } (.datum datum) (start (some limit)) =
      .error (.fullStack limit) ⟨(start (some limit)).workspace, 1⟩ := by
  have full : Stack.push datum (start (some limit)).workspace.stack =
      .error (.fullStack limit) (start (some limit)).workspace.stack :=
    Stack.push_of_le_length rfl nonpos datum
  simp only [operate, limitReached?, evaluate, Routine.ifActive, Routine.onStack]
  rw [full]
  rfl

/-- Whatever calculations a machine is asked for, also after failures, its stack
holds script values only, with integers of 128 bits that are exact.  It fails only with a
defined fault, or because the limit that it has reached is too long to be shown.  An
integer next to a floating-point number never fails to become one, the topmost value
always has an element, and so the program leaves nothing unhandled of a script that it
could read, unless a limit is too long.  It reads no such limit. -/
theorem calculations_sound (capacity maxSteps : Option Int) (calls : List Call)
    (admitted : ∀ call ∈ calls, ∀ item ∈ call.items, item.IsCalculation) :
    let config : Config := { system := Calculator.system, maxSteps := maxSteps }
    let reached := afterCalls config calls (start capacity)
    (∀ datum ∈ reached.workspace.stack.main ++ reached.workspace.stack.alt,
      ∃ value : Value, datum = .value value ∧
        ∀ number, value = .integer number → Int128.InRange number.val) ∧
    (∀ call : Call, (∀ item ∈ call.items, item.IsCalculation) →
      ∀ fault failed, call.perform config reached = .error fault failed →
        fault.label ∈ Fault.definedLabels ∨
          fault.label = "ValueError" ∧ ∃ limit, Text.isLongInteger limit = true ∧
            (maxSteps = some limit ∧ fault = .stepLimit limit ∨
              capacity = some limit ∧ fault = .fullStack limit)) ∧
    (∀ datum, reached.top? = some datum →
      ∃ element, Schema.elementOf (.datum datum) = .ok element) ∧
    (∀ integer, match Value.ofInt integer with
      | .ok value => ∃ number : Int128, value = .integer number ∧ number.val = integer
      | .error fault => fault = .integerRange integer ∧ ¬Int128.InRange integer) ∧
    (∀ number : Int128,
      Value.floatOfInt number.val = .ok (.float number.toBinary64)) ∧
    (∀ entryAt verbose settings operand script,
      CommandLine.scriptToRun entryAt settings operand = .ok script →
      settings.HasShownLimits →
        (CommandLine.run entryAt verbose settings operand).unhandled = none) ∧
    (∀ arguments settings operand,
      CommandLine.readRunArguments arguments = .ok (settings, operand) →
        settings.HasShownLimits) := by
  intro config reached
  have sound : reached.workspace.stack.IsSound capacity :=
    holds_afterCalls (fun call member item itemMember =>
      endsIn_operate_of_isCalculation (admitted call member item itemMember) maxSteps)
      (isSound_start capacity)
  refine ⟨?_, ?_, ?_, ?_, Int128.floatOfInt_val, ?_, ?_⟩
  · intro datum member
    obtain ⟨value, rfl⟩ := sound.2 datum member
    exact ⟨value, rfl, fun number _ => number.inRange_val⟩
  · intro call calculations fault failed performed
    have ended := endsIn_perform (fun item member =>
      endsIn_operate_of_isCalculation (calculations item member) maxSteps) sound
    rw [performed] at ended
    exact ended.2.label_cases
  · intro datum topmost
    obtain ⟨value, rfl⟩ := isValue_of_top? sound.2 topmost
    exact ⟨Schema.elementOfValue value, rfl⟩
  · intro integer
    rcases Value.ofInt_cases integer with ⟨number, valEq, held⟩ | ⟨beyond, refused⟩
    · rw [held]
      exact ⟨number, rfl, valEq⟩
    · rw [refused]
      exact ⟨rfl, beyond⟩
  · intro entryAt verbose settings operand script read shown
    exact CommandLine.unhandled_run shown read
  · intro arguments settings operand given
    exact CommandLine.hasShownLimits_of_readRunArguments given

/-- The lowest integer has no negation.  The machine goes on with what that failure
has left, and adding the integer to a text fails in turn.  So does adding a truth
value to a text that the program reads. -/
theorem calculations_sound_lowest :
    let lowest : Int128 := ⟨-2 ^ 127, by decide, by decide⟩
    let config : Config := { system := Calculator.system }
    let negation : Call :=
      .run [.value (.integer lowest), .instruction .dup, .instruction .not]
    let addition : Call := .run [.value (.string [0x61]), .instruction .add]
    let reached := afterCalls config [negation] (start (some 2))
    let fault : Fault := .addition (.string [0x61]) (.integer lowest)
    let arguments := ["--hex", "-j", "--max-stack-size=2", "011380"]
    let settings : CommandLine.RunSettings := ⟨true, some 2, none, true⟩
    (∀ call ∈ [negation], ∀ item ∈ call.items, item.IsCalculation) ∧
      negation.perform config (start (some 2)) =
        .error (.integerRange (2 ^ 127)) reached ∧
      (∀ datum ∈ reached.workspace.stack.main ++ reached.workspace.stack.alt,
        ∃ value : Value, datum = .value value ∧
          ∀ number, value = .integer number → Int128.InRange number.val) ∧
      (∃ element, Schema.elementOf (.value (.integer lowest)) = .ok element) ∧
      addition.perform config reached =
        .error fault ⟨⟨⟨some 2, [], []⟩, Conditions.empty⟩, 5⟩ ∧
      fault.label ∈ Fault.definedLabels ∧
      CommandLine.readRunArguments arguments = .ok (settings, "011380") ∧
      CommandLine.scriptToRun (fun _ => .missing) settings "011380" =
        .ok [.value (.boolean true), .value (.string []), .instruction .add] ∧
      (CommandLine.run (fun _ => .missing) false settings "011380").unhandled =
        none := by
  intro lowest config negation addition reached fault arguments settings
  have admitted : ∀ call ∈ [negation], ∀ item ∈ call.items,
      item.IsCalculation := by decide
  have admittedNext : ∀ item ∈ addition.items, item.IsCalculation := by decide
  obtain ⟨values, defined, shown, _, _, handled, limited⟩ :=
    calculations_sound (some 2) none [negation] admitted
  have failed : addition.perform config reached =
      .error fault ⟨⟨⟨some 2, [], []⟩, Conditions.empty⟩, 5⟩ := rfl
  have labelNe : fault.label ≠ "ValueError" := by
    change "ValueTypeError" ≠ "ValueError"
    decide
  have given : CommandLine.readRunArguments arguments = .ok (settings, "011380") :=
    eq_ok_of_toOption (by decide +kernel)
  have parsed : Hexadecimal.parse (Text.ofString "011380") =
      .ok [0x01, 0x13, 0x80] := rfl
  have decoded : Wire.decode (some Wire.instructionTable) #[0x01, 0x13, 0x80] =
      .ok [.value (.boolean true), .value (.string []), .instruction .add] := rfl
  have read : CommandLine.scriptToRun (fun _ => .missing) settings "011380" =
      .ok [.value (.boolean true), .value (.string []), .instruction .add] := by
    simp only [CommandLine.scriptToRun, CommandLine.scriptInDigits, settings,
      if_true, parsed, decoded]
  exact ⟨admitted, rfl, values, shown (.value (.integer lowest)) rfl, failed,
    (defined addition admittedNext fault _ failed).resolve_right
      fun unshown => labelNe unshown.1,
    given, read, handled (fun _ => .missing) false settings "011380" _ read
      (limited arguments settings "011380" given)⟩

/-- Under a limit that is too long to be shown a machine fails in no defined way, be it
the limit on its steps or the one on its stack. -/
theorem calculations_undefined :
    let limit : Int := -10 ^ 4300
    let item : Item := .value (.boolean true)
    item.IsCalculation ∧
      (∃ fault failed,
        (Call.operate item).perform { system := Calculator.system, maxSteps := some limit }
          (start none) = .error fault failed ∧
          fault.label = "ValueError" ∧ fault.label ∉ Fault.definedLabels) ∧
      ∃ fault failed,
        (Call.operate item).perform { system := Calculator.system }
          (start (some limit)) = .error fault failed ∧
          fault.label = "ValueError" ∧ fault.label ∉ Fault.definedLabels := by
  intro limit item
  have negative : limit ≤ 0 := by decide +kernel
  have long : Text.isLongInteger limit = true := by decide +kernel
  clear_value limit
  have undefined : "ValueError" ∉ Fault.definedLabels := by decide
  have stepLabel : (Fault.stepLimit limit).label = "ValueError" :=
    Fault.label_of_long long
  have stackLabel : (Fault.fullStack limit).label = "ValueError" :=
    Fault.label_of_long long
  exact ⟨.value _,
    ⟨_, _, operate_of_le_steps item negative, stepLabel, by rwa [stepLabel]⟩,
    _, _, operate_datum_of_nonpos negative _, stackLabel, by rwa [stackLabel]⟩

end Machine
end StackScript
