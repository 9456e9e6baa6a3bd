import FluentRecords.CommandLine.Program
import FluentRecords.Proofs.Files.Tree
import FluentRecords.Proofs.Outcome
import FluentRecords.Proofs.Splice.Body
import FluentRecords.Proofs.Text.Stored

/-!
Checks after runs. A run that generates a file leaves everything else as it was, so that a check with the
same options looks for the same text; whether it finds it depends on what the run left in the file.
-/

namespace FluentRecords

/-- Whether what a run leaves is shown with the code zero. -/
def Report.EndsWell (r : Report) (entry : Entry) : Prop :=
  (Program.ending entry (Program.unlines r.out) r.stop).code = 0

/-- The work of a command with its own arguments. -/
def Program.perform (tree : FileTree) (here : Directory) : Command → List Text → Report
  | .generate, words => Generate.run tree here words
  | .inspect, words => Inspect.run tree here words
  | .program, _ => .stopped tree (.answered (Command.help .program))

/-- The work of a run is that of the command that is called. -/
theorem Program.report_called {tree : FileTree} {here : Directory} {words rest : List Text} {c : Command}
    (called : readOptions words >>= resolve = .ok (c, rest)) : report tree here words = perform tree here c rest := by
  cases words with
  | nil => cases called
  | cons word words =>
    rw [report, called]
    cases c <;> rfl

namespace Generate

/-- Reading a command line needs options that can be read, of which each passes, and both files. -/
theorem Order.read_eq_ok {tree : FileTree} {here : Directory} {words : List Text} {o : Order} :
    Order.read tree here words = .ok o ↔
      ∃ a, Arguments.read specs true none words = .ok a ∧ a.has .help = false ∧
        (∀ key ∈ a.order Key.all, checkOption tree here a key = .ok ()) ∧
        Command.checkExtra .generate a.others = .ok () ∧
        required a .input = .ok o.input ∧ required a .output = .ok o.output ∧
        o.check = a.has .check ∧ o.options = settingOptions a := by
  unfold Order.read
  simp only [bind_eq_ok, mapError_eq_ok]
  refine exists_congr fun a => and_congr_right fun _ => ?_
  cases help : a.has .help with
  | true =>
    rw [if_pos rfl]
    exact iff_of_false (fun run => by cases run) (fun run => by cases run.1)
  | false =>
    simp only [Bool.false_eq_true, if_false, bind_eq_ok, true_and]
    constructor
    · rintro ⟨_, checked, _, none, input, isInput, output, isOutput, same⟩
      cases same
      exact ⟨forM_eq_ok.mp checked, none, isInput, isOutput, rfl, rfl⟩
    · rintro ⟨checked, none, isInput, isOutput, check, options⟩
      refine ⟨(), forM_eq_ok.mpr checked, (), none, _, isInput, _, isOutput, ?_⟩
      rw [← check, ← options]

/-- The arguments with a flag for a check in front. -/
def withCheck (a : Arguments Key) : Arguments Key :=
  { a with options := (.check, none) :: a.options }

theorem read_withCheck {words : List Text} {a : Arguments Key} (read : Arguments.read specs true none words = .ok a) :
    Arguments.read specs true none ("--check" :: words) = .ok (withCheck a) := by
  have flag : Arguments.readOption specs (Text.ofString "--check") = .ok ⟨[(Key.check, none)], none⟩ := by rfl
  rw [Arguments.read, if_neg (by decide), if_pos (by decide), flag]
  exact bind_eq_ok.mpr ⟨_, rfl, bind_eq_ok.mpr ⟨a, read, rfl⟩⟩

theorem value?_withCheck (a : Arguments Key) {key : Key} (other : key ≠ .check) :
    (withCheck a).value? key = a.value? key := by
  have passed : (Key.check == key) = false := beq_eq_false_iff_ne.mpr (Ne.symm other)
  rw [Arguments.value?, Arguments.value?, withCheck, List.reverse_cons, List.find?_append]
  simp [passed]

theorem has_withCheck (a : Arguments Key) {key : Key} (other : key ≠ .check) :
    (withCheck a).has key = a.has key := by
  have passed : (Key.check == key) = false := beq_eq_false_iff_ne.mpr (Ne.symm other)
  rw [Arguments.has, Arguments.has, withCheck, List.any_cons, passed, Bool.false_or]

theorem required_withCheck (a : Arguments Key) {key : Key} (other : key ≠ .check) :
    required (withCheck a) key = required a key := by
  rw [required, required, value?_withCheck a other]

theorem settingOptions_withCheck (a : Arguments Key) : settingOptions (withCheck a) = settingOptions a := by
  unfold settingOptions
  simp only [value?_withCheck a (by decide : Key.suffix ≠ .check),
    value?_withCheck a (by decide : Key.factoryName ≠ .check),
    value?_withCheck a (by decide : Key.finalizerName ≠ .check),
    has_withCheck a (by decide : Key.collectMissing ≠ .check)]

theorem mem_order {a : Arguments Key} {declared : List Key} {key : Key} (member : key ∈ declared) :
    key ∈ a.order declared := by
  rw [Arguments.order]
  cases given : (a.options.map (·.1)).eraseDups.elem key with
  | true => exact List.mem_append_left _ (List.mem_of_elem_eq_true given)
  | false =>
    refine List.mem_append_right _ (List.mem_filter.mpr ⟨member, ?_⟩)
    rw [given]
    rfl

variable {tree left : FileTree} {here : Directory} {words : List Text} {o : Order} {path text : Text}

theorem checkFile_mustExist {c : Command} {option : Text}
    (passed : Command.checkFile c tree here true option path = .ok ()) :
    ∃ content, tree.find here path = .ok (.file content) := by
  unfold Command.checkFile at passed
  split at passed
  · cases passed
  · rename_i content found
    exact ⟨content, found⟩
  · cases passed

theorem checkFile_of_file {c : Command} {option : Text} {mustExist : Bool} {content : List UInt8}
    (found : tree.find here path = .ok (.file content)) :
    Command.checkFile c tree here mustExist option path = .ok () := by
  unfold Command.checkFile
  rw [found]

theorem checkFile_output {c : Command} {option : Text} :
    Command.checkFile c tree here false option path = .ok () ↔ tree.find here path ≠ .ok .directory := by
  unfold Command.checkFile
  split
  · rename_i found
    exact iff_of_false (fun passed => by cases passed) (fun other => other found)
  · rename_i found
    exact iff_of_true rfl (fun directory => by rw [found] at directory; cases directory)
  · rename_i found
    exact iff_of_true rfl (fun directory => by rw [found] at directory; cases directory)

/-- A command line that is read names a file to read from, and none to write to that is a directory. -/
theorem Order.read_files (read : Order.read tree here words = .ok o) :
    (∃ content, tree.find here o.input = .ok (.file content)) ∧ tree.find here o.output ≠ .ok .directory := by
  obtain ⟨a, _, _, checked, _, input, output, _, _⟩ := Order.read_eq_ok.mp read
  have fromFile := checked .input (mem_order (by decide))
  have toFile := checked .output (mem_order (by decide))
  rw [checkOption, input] at fromFile
  rw [checkOption, output] at toFile
  exact ⟨checkFile_mustExist fromFile, checkFile_output.mp toFile⟩

/-- What a later tree must have in common with an earlier one for a check with the same options: the input
file, and an output that is no directory. -/
structure Order.Remains (o : Order) (here : Directory) (tree left : FileTree) : Prop where
  input : ∀ path content, (FilePath.ofText path).resolve here = (FilePath.ofText o.input).resolve here →
    tree.find here path = .ok (.file content) → left.find here path = .ok (.file content)
  output : left.find here o.output ≠ .ok .directory

/-- Arguments that name the same files pass in the later tree. -/
theorem Order.Remains.checkOption (remains : o.Remains here tree left) (read : Order.read tree here words = .ok o)
    {a : Arguments Key} (input : required a .input = .ok o.input) (output : required a .output = .ok o.output)
    (key : Key) : Generate.checkOption left here a key = .ok () := by
  cases key with
  | input =>
    obtain ⟨content, found⟩ := (Order.read_files read).1
    rw [Generate.checkOption, input]
    exact checkFile_of_file (remains.input o.input content rfl found)
  | output =>
    rw [Generate.checkOption, output]
    exact checkFile_output.mpr remains.output
  | check => rfl
  | suffix => rfl
  | factoryName => rfl
  | finalizerName => rfl
  | collectMissing => rfl
  | help => rfl

/-- The command line asks for the same again. -/
theorem Order.Remains.reread (remains : o.Remains here tree left) (read : Order.read tree here words = .ok o) :
    Order.read left here words = .ok o := by
  obtain ⟨a, arguments, help, _, none, input, output, check, options⟩ := Order.read_eq_ok.mp read
  exact Order.read_eq_ok.mpr ⟨a, arguments, help, fun key _ => remains.checkOption read input output key, none, input,
    output, check, options⟩

/-- The command line with the flag for a check asks for a check of the same. -/
theorem Order.Remains.read (remains : o.Remains here tree left) (read : Order.read tree here words = .ok o) :
    Order.read left here ("--check" :: words) = .ok { o with check := true } := by
  obtain ⟨a, arguments, help, _, none, input, output, _, options⟩ := Order.read_eq_ok.mp read
  have sameInput := (required_withCheck a (by decide : Key.input ≠ .check)).trans input
  have sameOutput := (required_withCheck a (by decide : Key.output ≠ .check)).trans output
  refine Order.read_eq_ok.mpr ⟨withCheck a, read_withCheck arguments, ?_,
    fun key _ => remains.checkOption read sameInput sameOutput key, none, sameInput, sameOutput, rfl, ?_⟩
  · rw [has_withCheck a (by decide), help]
  · rw [settingOptions_withCheck, options]

theorem render_eq_ok : render tree here o = .ok text ↔
    ∃ settings source, Settings.ofOptions o.options = .ok settings ∧
      tree.readText here (FilePath.ofText o.input).text = .ok source ∧
      GeneratedFile.render here (FilePath.ofText o.input) settings source = .ok text := by
  unfold render
  simp only [bind_eq_ok, mapError_eq_ok]
  refine exists_congr fun settings => ⟨?_, ?_⟩
  · rintro ⟨given, source, read, rendered⟩
    refine ⟨source, given, read, ?_⟩
    cases made : GeneratedFile.render here (FilePath.ofText o.input) settings source with
    | ok done =>
      rw [made] at rendered
      exact congrArg Except.ok (Except.ok.inj rendered)
    | error failure =>
      rw [made] at rendered
      cases failure with
      | rejected ds => cases rendered
      | breakdown b => cases rendered
  · rintro ⟨source, given, read, rendered⟩
    exact ⟨given, source, read, by rw [rendered]⟩

/-- The text to be generated is the one that was generated. -/
theorem Order.Remains.render (remains : o.Remains here tree left) (rendered : render tree here o = .ok text) :
    Generate.render left here o = .ok text := by
  obtain ⟨settings, source, given, read, made⟩ := render_eq_ok.mp rendered
  obtain ⟨content, decoded, found, bytes, lines⟩ := FileTree.readText_eq_ok.mp read
  have same := (FilePath.ofText_plain o.input).resolve_text here
  have again := remains.input _ content same found
  exact render_eq_ok.mpr ⟨settings, source, given, FileTree.readText_eq_ok.mpr ⟨content, decoded, again, bytes, lines⟩,
    made⟩

theorem compare_eq {existing : Text} (read : left.readText here path = .ok existing) :
    compare left here path text =
      if existing = text then .ok ("up-to-date: " ++ path)
      else .error (.reported [path ++ " is out of date (run generator)"]) := by
  obtain ⟨content, _, found, _⟩ := FileTree.readText_eq_ok.mp read
  have holds : left.holds here path = true := by
    rw [FileTree.holds, found]
    rfl
  rw [compare, holds, read]
  rfl

/-- What a check with the same options says of what it finds in the output. -/
theorem Order.Remains.check (remains : o.Remains here tree left) (read : Order.read tree here words = .ok o)
    (rendered : Generate.render tree here o = .ok text) {existing : Text}
    (found : left.readText here (FilePath.ofText o.output).text = .ok existing) :
    run left here ("--check" :: words) =
      if existing = text then .line left ("up-to-date: " ++ (FilePath.ofText o.output).text)
      else .stopped left (.reported [(FilePath.ofText o.output).text ++ " is out of date (run generator)"]) := by
  have again : Generate.render left here { o with check := true } = .ok text := remains.render rendered
  rw [run, remains.read read]
  dsimp only
  rw [Order.carryOut, again]
  dsimp only
  rw [if_pos rfl, compare_eq found]
  by_cases same : existing = text
  · rw [if_pos same, if_pos same]
  · rw [if_neg same, if_neg same]

/-- Without a text to be generated, something has failed, or the source is rejected and its faults are reported. -/
theorem render_eq_error {s : Stop} (failed : render tree here o = .error s) :
    (∃ message, s = .failed message) ∨ ∃ settings source ds, Settings.ofOptions o.options = .ok settings ∧
      tree.readText here (FilePath.ofText o.input).text = .ok source ∧
      GeneratedFile.render here (FilePath.ofText o.input) settings source = .error (.rejected ds) ∧
      s = .reported (ds.map (·.render (some (FilePath.ofText o.input).text))) := by
  unfold render at failed
  rcases bind_eq_error.mp failed with invalid | ⟨settings, given, failed⟩
  · obtain ⟨faults, _, rfl⟩ := mapError_eq_error.mp invalid
    exact Or.inl ⟨_, rfl⟩
  · rcases bind_eq_error.mp failed with unread | ⟨source, read, failed⟩
    · obtain ⟨fault, _, rfl⟩ := mapError_eq_error.mp unread
      exact Or.inl ⟨_, rfl⟩
    · split at failed
      · cases failed
      · rename_i ds rejected
        cases failed
        exact Or.inr ⟨settings, source, ds, mapError_eq_ok.mp given, mapError_eq_ok.mp read, rejected, rfl⟩
      · cases failed
        exact Or.inl ⟨_, rfl⟩

/-- A run that goes on to generate a text does not end well without one. -/
theorem render_error {s : Stop} (failed : render tree here o = .error s) (entry : Entry) :
    ¬ (Report.stopped tree s).EndsWell entry := by
  rcases render_eq_error failed with ⟨message, rfl⟩ | ⟨_, _, _, _, _, _, rfl⟩
  · exact fun done => by cases done
  · exact fun done => by cases done

theorem mayStay_failed {s : Stop} (failed : mayStay tree here path text = .error s) :
    ∃ message, s = .failed message := by
  unfold mayStay at failed
  split at failed
  · cases failed
  · split at failed
    · cases failed
      exact ⟨_, rfl⟩
    · cases failed

theorem mayStay_error {s : Stop} (failed : mayStay tree here path text = .error s) (entry : Entry) :
    ¬ (Report.stopped tree s).EndsWell entry := by
  obtain ⟨message, rfl⟩ := mayStay_failed failed
  exact fun done => by cases done

theorem writeText_eq_none {after : FileTree} (written : writeText tree here path text = (after, none)) :
    ∃ bytes, Text.encode text = .ok bytes ∧ tree.write here path bytes = .ok after := by
  unfold writeText at written
  split at written
  · rename_i bytes encoded
    split at written
    · cases written
    · rename_i made
      cases written
      exact ⟨bytes, encoded, made⟩
  · split at written
    · cases written
    · cases written

theorem store_stop (tree : FileTree) (here : Directory) (p : FilePath) (text : Text) :
    (store tree here p text).stop = none ∨ ∃ message, (store tree here p text).stop = some (.failed message) := by
  unfold store
  split
  · exact Or.inr ⟨_, rfl⟩
  · split
    · exact Or.inr ⟨_, rfl⟩
    · exact Or.inl rfl

theorem store_endsWell_iff {entry : Entry} {p : FilePath} :
    (store tree here p text).EndsWell entry ↔ (store tree here p text).stop = none := by
  rw [Report.EndsWell]
  rcases store_stop tree here p text with none | ⟨message, failed⟩
  · rw [none]
    exact iff_of_true rfl rfl
  · rw [failed]
    exact iff_of_false (fun zero => by cases zero) fun none => by cases none

/-- A text that is stored is said to be generated. It is written where the directories above it have been made. -/
theorem store_written {p : FilePath} (done : (store tree here p text).stop = none) :
    ∃ between after bytes, tree.ensureDirectories here p.parent = (between, none) ∧ Text.encode text = .ok bytes ∧
      between.write here p.text bytes = .ok after ∧
      store tree here p text = .line after ("generated: " ++ p.text) := by
  unfold store at done ⊢
  split at done
  · cases done
  · rename_i between made
    split at done
    · cases done
    · rename_i after written
      obtain ⟨bytes, encoded, stored⟩ := writeText_eq_none written
      exact ⟨between, after, bytes, made, encoded, stored, rfl⟩

/-- A text that is stored, after directories may have been made, stands where its path leads. -/
theorem store_done {entry : Entry} {p : FilePath} (plain : p.Plain)
    (done : (store tree here p text).EndsWell entry) :
    ∃ bytes, Text.encode text = .ok bytes ∧ tree.Writes (store tree here p text).tree (p.resolve here) bytes ∧
      (store tree here p text).tree.locate here p.text = .ok (p.resolve here) := by
  obtain ⟨between, after, bytes, made, encoded, stored, whole⟩ := store_written (store_endsWell_iff.mp done)
  have grows := FileTree.ensureAll_grows here p.parent.root tree p.parent.names.reverse
  change tree.Grows (tree.ensureDirectories here p.parent).1 at grows
  rw [made] at grows
  obtain ⟨writes, found⟩ := FileTree.write_writes stored
  rw [plain.resolve_text here] at writes found
  rw [whole]
  exact ⟨bytes, encoded, grows.writes writes, found⟩

theorem carryOut_eq (rendered : Generate.render tree here o = .ok text) (writing : o.check = false) :
    o.carryOut tree here = match mayStay tree here (FilePath.ofText o.output).text text with
      | .error s => .stopped tree s
      | .ok true => .line tree ("unchanged: " ++ (FilePath.ofText o.output).text)
      | .ok false => store tree here (FilePath.ofText o.output) text := by
  rw [Order.carryOut, rendered]
  dsimp only
  rw [writing]
  rfl

theorem carryOut_kept (rendered : Generate.render tree here o = .ok text) (writing : o.check = false)
    (stays : mayStay tree here (FilePath.ofText o.output).text text = .ok true) :
    o.carryOut tree here = .line tree ("unchanged: " ++ (FilePath.ofText o.output).text) := by
  rw [carryOut_eq rendered writing, stays]

/-- A run that ends well either keeps the output, and everything else, or writes the text to it. -/
theorem carryOut_done {entry : Entry} (writing : o.check = false)
    (done : (o.carryOut tree here).EndsWell entry) :
    ∃ text, Generate.render tree here o = .ok text ∧
      ((mayStay tree here (FilePath.ofText o.output).text text = .ok true ∧ (o.carryOut tree here).tree = tree) ∨
        (mayStay tree here (FilePath.ofText o.output).text text = .ok false ∧
          ∃ bytes, Text.encode text = .ok bytes ∧
            tree.Writes (o.carryOut tree here).tree ((FilePath.ofText o.output).resolve here) bytes ∧
            (o.carryOut tree here).tree.locate here (FilePath.ofText o.output).text =
              .ok ((FilePath.ofText o.output).resolve here))) := by
  cases rendered : Generate.render tree here o with
  | error s =>
    rw [Order.carryOut, rendered] at done
    exact absurd done (render_error rendered entry)
  | ok text =>
    refine ⟨text, rfl, ?_⟩
    rw [carryOut_eq rendered writing] at done ⊢
    cases stays : mayStay tree here (FilePath.ofText o.output).text text with
    | error s =>
      rw [stays] at done
      exact absurd done (mayStay_error stays entry)
    | ok stay =>
      rw [stays] at done
      cases stay with
      | true => exact Or.inl ⟨rfl, rfl⟩
      | false => exact Or.inr ⟨rfl, store_done (FilePath.ofText_plain o.output) done⟩

/-- The name of the command is followed by its own arguments. -/
theorem report_generate (tree : FileTree) (here : Directory) (words : List Text) :
    Program.report tree here ("generate" :: words) = run tree here words :=
  rfl

/-- A run leaves in the output what a check looks for, if an output that is kept holds the text itself, and if
one that is written holds no carriage return, which reading would change. -/
structure Order.Settles (o : Order) (tree : FileTree) (here : Directory) (text : Text) : Prop where
  kept : mayStay tree here (FilePath.ofText o.output).text text = .ok true →
    tree.readText here (FilePath.ofText o.output).text = .ok text
  written : mayStay tree here (FilePath.ofText o.output).text text = .ok false → 13 ∉ text

/-- An output may stay if it can be read and is current. -/
theorem mayStay_eq_true : mayStay tree here path text = .ok true ↔
    ∃ existing, tree.readText here path = .ok existing ∧ isCurrent existing text = true := by
  unfold mayStay
  split
  · rename_i absent
    refine iff_of_false (fun stays => by cases stays) ?_
    rintro ⟨existing, read, _⟩
    obtain ⟨content, _, found, _⟩ := FileTree.readText_eq_ok.mp read
    rw [FileTree.holds, found] at absent
    cases absent
  · split
    · rename_i unread
      rw [unread]
      exact iff_of_false (fun stays => by cases stays) fun ⟨_, read, _⟩ => by cases read
    · rename_i existing read
      rw [read]
      constructor
      · exact fun stays => ⟨existing, rfl, Except.ok.inj stays⟩
      · rintro ⟨_, same, current⟩
        cases same
        rw [current]

/-- What is there to be read after a run that ended well: what was kept, or the text as reading changes it. -/
theorem carryOut_found {entry : Entry} (read : Order.read tree here words = .ok o) (writing : o.check = false)
    (apart : (FilePath.ofText o.input).resolve here ≠ (FilePath.ofText o.output).resolve here)
    (done : (o.carryOut tree here).EndsWell entry) :
    ∃ text existing, Generate.render tree here o = .ok text ∧ o.Remains here tree (o.carryOut tree here).tree ∧
      (o.carryOut tree here).tree.readText here (FilePath.ofText o.output).text = .ok existing ∧
      ((mayStay tree here (FilePath.ofText o.output).text text = .ok true ∧
          tree.readText here (FilePath.ofText o.output).text = .ok existing ∧ isCurrent existing text = true) ∨
        (mayStay tree here (FilePath.ofText o.output).text text = .ok false ∧ existing = text.lineFeeds)) := by
  obtain ⟨text, rendered, ⟨stays, same⟩ | ⟨changes, bytes, encoded, writes, leads⟩⟩ := carryOut_done writing done
  · obtain ⟨existing, found, current⟩ := mayStay_eq_true.mp stays
    have remains : o.Remains here tree tree := ⟨fun _ _ _ before => before, (Order.read_files read).2⟩
    rw [same]
    exact ⟨text, existing, rendered, remains, found, Or.inl ⟨stays, found, current⟩⟩
  · have lines := Text.decode_encode encoded
    have stands : (o.carryOut tree here).tree.find here (FilePath.ofText o.output).text = .ok (.file bytes) :=
      FileTree.find_eq_ok.mpr ⟨_, leads, writes.written⟩
    refine ⟨text, text.lineFeeds, rendered, ⟨fun path content input before => ?_, fun directory => ?_⟩,
      FileTree.readText_eq_ok.mpr ⟨bytes, text, stands, lines, rfl⟩, Or.inr ⟨changes, rfl⟩⟩
    · exact writes.find_other before (input ▸ apart)
    · cases writes.find_written directory

/-- What is there to be read after a run that ended well, and whether it is the text. -/
theorem carryOut_leaves {entry : Entry} (read : Order.read tree here words = .ok o) (writing : o.check = false)
    (apart : (FilePath.ofText o.input).resolve here ≠ (FilePath.ofText o.output).resolve here)
    (done : (o.carryOut tree here).EndsWell entry) :
    ∃ text existing, Generate.render tree here o = .ok text ∧ o.Remains here tree (o.carryOut tree here).tree ∧
      (o.carryOut tree here).tree.readText here (FilePath.ofText o.output).text = .ok existing ∧
      (existing = text ↔ o.Settles tree here text) := by
  obtain ⟨text, existing, rendered, remains, there, found⟩ := carryOut_found read writing apart done
  refine ⟨text, existing, rendered, remains, there, ?_⟩
  rcases found with ⟨stays, kept, _⟩ | ⟨changes, rfl⟩
  · constructor
    · rintro rfl
      exact ⟨fun _ => kept, fun changes => by rw [stays] at changes; cases changes⟩
    · intro settles
      exact Except.ok.inj (kept.symm.trans (settles.kept stays))
  · rw [Text.lineFeeds_eq_self_iff]
    refine ⟨fun plain => ⟨fun stays => ?_, fun _ => plain⟩, fun settles => settles.written changes⟩
    rw [changes] at stays
    cases stays

/-- After a run that ended well, a check with the same options reports that the output is up to date if the
run settled it, and that it is out of date if not. -/
theorem check_after_run {entry : Entry} (read : Order.read tree here words = .ok o) (writing : o.check = false)
    (apart : (FilePath.ofText o.input).resolve here ≠ (FilePath.ofText o.output).resolve here)
    (done : (Program.run entry tree here ("generate" :: words)).1.code = 0) :
    ∃ text, Generate.render tree here o = .ok text ∧
      (o.Settles tree here text →
        Program.run entry (Program.run entry tree here ("generate" :: words)).2 here ("generate" :: "--check" :: words) =
          (⟨0, Program.unlines ["up-to-date: " ++ (FilePath.ofText o.output).text], []⟩,
            (Program.run entry tree here ("generate" :: words)).2)) ∧
      (¬ o.Settles tree here text →
        Program.run entry (Program.run entry tree here ("generate" :: words)).2 here ("generate" :: "--check" :: words) =
          (⟨1, [], Program.unlines [(FilePath.ofText o.output).text ++ " is out of date (run generator)"]⟩,
            (Program.run entry tree here ("generate" :: words)).2)) := by
  have carried : Program.report tree here ("generate" :: words) = o.carryOut tree here := by
    rw [report_generate, run, read]
  simp only [Program.run, carried, report_generate] at done ⊢
  obtain ⟨text, existing, rendered, remains, found, settled⟩ := carryOut_leaves read writing apart done
  have checked := remains.check read rendered found
  refine ⟨text, rendered, fun settles => ?_, fun unsettled => ?_⟩
  · rw [checked, if_pos (settled.mpr settles)]
    rfl
  · rw [checked, if_neg fun same => unsettled (settled.mp same)]
    rfl

/-- The digest of an empty module under the default settings. -/
def emptyDigest : Text :=
  "29ff8e5f66139f60fef8951d1d17484130ced694b1c45f5a7175f17ee296f6a7"

theorem digest_nil : GeneratedFile.digest .default [] = emptyDigest := by
  decide +kernel

/-- The file that is generated for an empty module. -/
def emptyFile : Text :=
  GeneratedFile.header "models.py" emptyDigest

/-- An empty module next to a file. -/
def besideEmpty (others : List (Directory × FileEntry)) : FileTree :=
  ⟨([Text.ofString "models.py"], .file []) :: others⟩

/-- The order of a file for the empty module. -/
def emptyOrder : Order :=
  ⟨"models.py", "out.py", false, [(Setting.collectMissing.key, .bool false)]⟩

theorem render_empty (others : List (Directory × FileEntry)) :
    Generate.render (besideEmpty others) [] emptyOrder = .ok emptyFile := by
  refine render_eq_ok.mpr ⟨.default, [], rfl, rfl, ?_⟩
  have label : (FilePath.ofText "models.py").label [] = "models.py" := by decide
  rw [GeneratedFile.render, Module.transform_quiet Module.parse_nil (Module.requests_nil _)]
  change Except.ok (GeneratedFile.header ((FilePath.ofText "models.py").label [])
    (GeneratedFile.digest .default []) ++ []) = _
  rw [digest_nil, label, List.append_nil, emptyFile]

/-- The words that order a file for the empty module. -/
def emptyWords : List Text :=
  ["--in", "models.py", "--out", "out.py"]

theorem read_empty : Order.read (besideEmpty []) [] emptyWords = .ok emptyOrder := by
  rfl

theorem encode_empty : Text.encode emptyFile = .ok (GeneratedFile.bytes emptyFile) :=
  Text.encode_of_encodable (by decide +kernel)

/-- The file for the empty module is stored next to the module. -/
theorem store_empty : ∃ left, store (besideEmpty []) [] (FilePath.ofText "out.py") emptyFile =
    .line left ("generated: " ++ (FilePath.ofText "out.py").text) := by
  have passed : (besideEmpty []).ensureDirectories [] (FilePath.ofText "out.py").parent = (besideEmpty [], none) := rfl
  have written : ∀ bytes, (besideEmpty []).write [] (FilePath.ofText "out.py").text bytes =
      .ok ((besideEmpty []).put [Text.ofString "out.py"] (.file bytes)) := fun _ => rfl
  refine ⟨(besideEmpty []).put [Text.ofString "out.py"] (.file (GeneratedFile.bytes emptyFile)), ?_⟩
  simp only [store, passed, writeText, encode_empty, written]

theorem check_after_run_empty :
    (Program.run .user (Program.run .user (besideEmpty []) [] ("generate" :: emptyWords)).2 []
      ("generate" :: "--check" :: emptyWords)).1 = ⟨0, "up-to-date: out.py\n", []⟩ := by
  have absent : mayStay (besideEmpty []) [] (FilePath.ofText "out.py").text emptyFile = .ok false := rfl
  have carried : Program.report (besideEmpty []) [] ("generate" :: emptyWords) =
      store (besideEmpty []) [] (FilePath.ofText "out.py") emptyFile := by
    rw [report_generate, run, read_empty]
    dsimp only
    rw [carryOut_eq (render_empty []) rfl]
    rfl
  have done : (Program.run .user (besideEmpty []) [] ("generate" :: emptyWords)).1.code = 0 := by
    rw [Program.run, carried]
    decide +kernel
  obtain ⟨text, rendered, settled, _⟩ := check_after_run read_empty rfl (by decide) done
  cases (render_empty []).symm.trans rendered
  have settles : emptyOrder.Settles (besideEmpty []) [] emptyFile := {
    kept := fun stays => by cases absent.symm.trans stays
    written := fun _ => by decide +kernel }
  rw [settled settles]
  rfl

/-- A file that states the digest of what is generated for the empty module, and nothing else. -/
def staleFile : Text :=
  GeneratedFile.digestMark ++ emptyDigest ++ "\n"

/-- A run keeps a file that states the right digest, whatever else it holds, and a check after it fails. -/
theorem stale_after_run :
    let tree := besideEmpty [([Text.ofString "out.py"], .file (GeneratedFile.bytes staleFile))]
    (FilePath.ofText "models.py").resolve [] ≠ (FilePath.ofText "out.py").resolve [] ∧
      (Program.run .user tree [] ("generate" :: emptyWords)).1 = ⟨0, "unchanged: out.py\n", []⟩ ∧
      (Program.run .user (Program.run .user tree [] ("generate" :: emptyWords)).2 []
        ("generate" :: "--check" :: emptyWords)).1 = ⟨1, [], "out.py is out of date (run generator)\n"⟩ := by
  intro tree
  have apart : (FilePath.ofText "models.py").resolve [] ≠ (FilePath.ofText "out.py").resolve [] := by decide
  have read : Order.read tree [] emptyWords = .ok emptyOrder := rfl
  have existing : tree.readText [] (FilePath.ofText "out.py").text = .ok staleFile := by
    refine FileTree.readText_eq_ok.mpr ⟨GeneratedFile.bytes staleFile, staleFile, rfl, ?_, ?_⟩
    · exact Text.decodeFrom_flatMap (by decide) 0
    · exact (Text.lineFeeds_eq_self_iff staleFile).mpr (by decide)
  have current : isCurrent staleFile emptyFile = true := by decide +kernel
  have stays : mayStay tree [] (FilePath.ofText "out.py").text emptyFile = .ok true := by
    rw [mayStay, existing]
    dsimp only
    rw [current]
    rfl
  have first : Program.run .user tree [] ("generate" :: emptyWords) = (⟨0, "unchanged: out.py\n", []⟩, tree) := by
    rw [Program.run, report_generate, run, read]
    dsimp only
    rw [carryOut_kept (render_empty _) rfl stays]
    rfl
  have remains : emptyOrder.Remains [] tree tree := ⟨fun _ _ _ before => before, (Order.read_files read).2⟩
  have stale : staleFile ≠ emptyFile := by decide
  have second : (Program.run .user tree [] ("generate" :: "--check" :: emptyWords)).1 =
      ⟨1, [], "out.py is out of date (run generator)\n"⟩ := by
    rw [Program.run, report_generate, remains.check read (render_empty _) existing, if_neg stale]
    rfl
  rw [first]
  exact ⟨apart, rfl, second⟩

end Generate

end FluentRecords
