import FluentRecords.Proofs.CommandLine.Checking
import FluentRecords.Proofs.Files.Directories

/-!
What a run leaves as it was. Only a text that is stored changes anything: the output and the directories above
it that are missing. They are made before the output is opened, and the output is emptied before the text is
encoded, so that some runs that fail leave a trace.
-/

namespace FluentRecords

namespace FileTree

variable {t t' : FileTree} {here place : Directory} {p : FilePath} {path : Text} {bytes : List UInt8} {e : FileEntry}

theorem put_get?_eq_iff (below : place ≠ []) : (t.put place e).get? = t.get? ↔ t.get? place = some e := by
  constructor
  · intro same
    rw [← same, get?_put below]
  · intro stands
    funext other
    by_cases here : other = place
    · rw [here, get?_put below, stands]
    · exact get?_put_other here

theorem get?_write_other (written : t.write here path bytes = .ok t')
    (apart : place ≠ (FilePath.ofText path).resolve here) : t'.get? place = t.get? place := by
  rw [write] at written
  split at written
  · cases written
  · rename_i target leads
    split at written
    · cases written
    · cases written
      rw [← locate_eq leads] at apart
      exact get?_put_other apart

/-- A file can be written into a directory. -/
theorem write_of_parent (inside : t.get? here = some .directory) (plain : p.Plain) (named : p.names ≠ [])
    (above : t.find here p.parent.text = .ok .directory) (other : t.find here p.text ≠ .ok .directory) :
    ∃ place, place ≠ [] ∧ t.locate here p.text = .ok place ∧
      ∀ bytes, t.write here p.text bytes = .ok (t.put place (.file bytes)) := by
  obtain ⟨root, names⟩ := p
  have split : names.dropLast ++ [names.getLast named] = names := List.dropLast_append_getLast named
  obtain ⟨upper, leads, stands⟩ := find_eq_ok.mp above
  obtain ⟨place, further⟩ : ∃ place, t.step upper (names.getLast named) = .ok place := by
    rw [step, stands]
    exact ⟨_, rfl⟩
  have leads : t.locate here (FilePath.mk root names).text = .ok place := by
    have concat := locate_concat inside (split.symm ▸ plain)
    rw [split] at concat
    exact concat.trans (bind_eq_ok.mpr ⟨upper, leads, further⟩)
  have free : t.get? place ≠ some .directory := fun stands => other (find_eq_ok.mpr ⟨place, leads, stands⟩)
  refine ⟨place, ?_, leads, fun bytes => ?_⟩
  · rintro rfl
    exact free (get?_nil t)
  · rw [write, leads]
    exact if_neg free

/-- A tree to which a file was written, and before that the directories above it that were missing. -/
structure Stored (t t' : FileTree) (here : Directory) (p : FilePath) (bytes : List UInt8) : Prop where
  content : t'.find here p.text = .ok (.file bytes)
  others : ∀ place, place ≠ p.resolve here → t'.get? place = t.get? place ∨
    t.get? place = none ∧ t'.get? place = some .directory ∧
      ∃ names, names <+: p.parent.names ∧ place = (FilePath.mk p.root names).resolve here

end FileTree

theorem Inspect.run_tree (tree : FileTree) (here : Directory) (words : List Text) :
    (Inspect.run tree here words).tree = tree := by
  unfold Inspect.run
  split
  · rfl
  · split
    · rfl
    · split
      · rfl
      · rfl

namespace Generate

variable {tree left : FileTree} {here : Directory} {words rest : List Text} {o : Order} {p : FilePath}
  {path text : Text}

/-- An output that may not stay is no directory. -/
theorem find_of_mayStay (outdated : mayStay tree here path text = .ok false) : tree.find here path ≠ .ok .directory := by
  intro directory
  have held : tree.holds here path = true := by
    rw [FileTree.holds, directory]
    rfl
  have unread : ∃ f, tree.readText here path = .error f := by
    rw [FileTree.readText, FileTree.read, directory]
    exact ⟨_, rfl⟩
  obtain ⟨f, unread⟩ := unread
  rw [mayStay, held, unread] at outdated
  cases outdated

theorem names_ne_nil (inside : tree.get? here = some .directory) (plain : p.Plain)
    (other : tree.find here p.text ≠ .ok .directory) : p.names ≠ [] := by
  intro none
  refine other (FileTree.find_eq_ok.mpr ⟨if p.isAbsolute then [] else here, ?_, ?_⟩)
  · rw [FileTree.locate_text inside plain, none]
    rfl
  · split
    · rfl
    · exact inside

theorem writeText_keeps (tree : FileTree) (here : Directory) (path text : Text) :
    tree.KeepsDirectories (writeText tree here path text).1 := by
  have written : ∀ {bytes after}, tree.write here path bytes = .ok after → tree.KeepsDirectories after :=
    fun made => (FileTree.write_writes made).1.directories
  unfold writeText
  split
  · split
    · exact fun _ stands => stands
    · rename_i made
      exact written made
  · split
    · exact fun _ stands => stands
    · rename_i made
      exact written made

/-- Directories that are made stay, whatever comes of the text. -/
theorem store_keeps (tree : FileTree) (here : Directory) (p : FilePath) (text : Text) :
    (tree.ensureDirectories here p.parent).1.KeepsDirectories (store tree here p text).tree := by
  unfold store
  split
  · rename_i stopped
    rw [stopped]
    exact fun _ stands => stands
  · rename_i between made
    have keeps := writeText_keeps between here p.text text
    rw [made]
    split
    · rename_i failed
      rwa [failed] at keeps
    · rename_i written
      rwa [written] at keeps

/-- A text that cannot be stored leaves everything as it was if the directory above is not missing, and if what
is emptied when there is one is empty already; and only then. -/
theorem store_failed (inside : tree.get? here = some .directory) (plain : p.Plain)
    (other : tree.find here p.text ≠ .ok .directory) (failed : (store tree here p text).stop ≠ none) :
    (store tree here p text).tree.get? = tree.get? ↔
      tree.find here p.parent.text ≠ .error .missing ∧
        (tree.find here p.parent.text = .ok .directory → tree.find here p.text = .ok (.file [])) := by
  by_cases absent : tree.find here p.parent.text = .error .missing
  · obtain ⟨place, free, made⟩ := FileTree.ensureDirectories_of_missing inside plain.parent absent
    have stands := store_keeps tree here p text place made
    refine iff_of_false (fun same => ?_) fun there => there.1 absent
    rw [same, free] at stands
    cases stands
  · obtain ⟨same, passes⟩ := FileTree.ensureDirectories_of_found absent
    cases made : tree.ensureDirectories here p.parent with
    | mk between stopped =>
      rw [made] at same passes
      change between = tree at same
      subst same
      rw [and_iff_right absent]
      cases stopped with
      | some f =>
        have nowhere : between.find here p.parent.text ≠ .ok .directory := fun directory => by
          cases passes.mpr directory
        rw [store, made]
        exact iff_of_true rfl fun directory => absurd directory nowhere
      | none =>
        have above := passes.mp rfl
        obtain ⟨place, below, leads, written⟩ :=
          FileTree.write_of_parent inside plain (names_ne_nil inside plain other) above other
        cases encoded : Text.encode text with
        | ok bytes =>
          refine absurd ?_ failed
          simp only [store, made, writeText, encoded, written]
          rfl
        | error fault =>
          have emptied : store between here p text =
              .stopped (between.put place (.file [])) (.failed fault.message) := by
            simp only [store, made, writeText, encoded, written]
          rw [emptied]
          change (between.put place (.file [])).get? = between.get? ↔ _
          rw [FileTree.put_get?_eq_iff below]
          constructor
          · exact fun stands _ => FileTree.find_eq_ok.mpr ⟨place, leads, stands⟩
          · intro empty
            obtain ⟨target, same, stands⟩ := FileTree.find_eq_ok.mp (empty above)
            cases leads.symm.trans same
            exact stands

/-- A text that is stored is said to be generated, and stands in the output; nothing else is changed than
directories above it that are made. -/
theorem store_stored (plain : p.Plain) (done : (store tree here p text).stop = none) :
    (store tree here p text).out = ["generated: " ++ p.text] ∧ ∃ bytes, Text.encode text = .ok bytes ∧
      tree.Stored (store tree here p text).tree here p bytes := by
  obtain ⟨between, after, bytes, passed, encoded, stored, whole⟩ := store_written done
  have grows := FileTree.ensureDirectories_grows tree here p.parent
  have made := fun place => @FileTree.ensureDirectories_made tree here place p.parent plain.parent
  rw [passed] at grows made
  obtain ⟨writes, leads⟩ := FileTree.write_writes stored
  rw [whole]
  refine ⟨rfl, bytes, encoded, FileTree.find_eq_ok.mpr ⟨_, leads, writes.written⟩, fun place apart => ?_⟩
  rw [← plain.resolve_text here] at apart
  have kept := FileTree.get?_write_other stored apart
  rcases grows place with same | ⟨free, stands⟩
  · exact Or.inl (kept.trans same)
  · have new : between.get? place ≠ none := by
      rw [stands]
      exact Option.some_ne_none _
    exact Or.inr ⟨free, kept.trans stands, made place free new⟩

/-- A run that fails leaves no trace if no text is to be stored; or if the directory above the output is not
missing, and, where that directory is there, the output that such a run empties is an empty file already. -/
def Order.Traceless (o : Order) (tree : FileTree) (here : Directory) : Prop :=
  ∀ text, Generate.render tree here o = .ok text →
    mayStay tree here (FilePath.ofText o.output).text text = .ok false →
      tree.find here (FilePath.ofText o.output).parent.text ≠ .error .missing ∧
        (tree.find here (FilePath.ofText o.output).parent.text = .ok .directory →
          tree.find here (FilePath.ofText o.output).text = .ok (.file []))

/-- A check changes nothing. -/
theorem carryOut_check (tree : FileTree) (here : Directory) (checking : o.check = true) :
    (o.carryOut tree here).tree = tree := by
  rw [Order.carryOut]
  split
  · rfl
  · rw [if_pos checking]
    split
    · rfl
    · rfl

/-- A run that ends well keeps everything, or stores the text that it generates. -/
theorem carryOut_stored {entry : Entry} (writing : o.check = false) (done : (o.carryOut tree here).EndsWell entry) :
    o.carryOut tree here = .line tree ("unchanged: " ++ (FilePath.ofText o.output).text) ∨
      (o.carryOut tree here).stop = none ∧
        (o.carryOut tree here).out = ["generated: " ++ (FilePath.ofText o.output).text] ∧
        ∃ text bytes, Generate.render tree here o = .ok text ∧ Text.encode text = .ok bytes ∧
          tree.Stored (o.carryOut tree here).tree here (FilePath.ofText o.output) bytes := by
  obtain ⟨text, rendered, ⟨stays, _⟩ | ⟨changes, _⟩⟩ := carryOut_done writing done
  · exact Or.inl (carryOut_kept rendered writing stays)
  · have carried : o.carryOut tree here = store tree here (FilePath.ofText o.output) text := by
      rw [carryOut_eq rendered writing, changes]
    rw [carried] at done ⊢
    have none := store_endsWell_iff.mp done
    obtain ⟨said, bytes, encoded, stored⟩ := store_stored (FilePath.ofText_plain o.output) none
    exact Or.inr ⟨none, said, text, bytes, rendered, encoded, stored⟩

/-- A run that fails to write leaves everything as it was if it leaves no trace, and only then. -/
theorem carryOut_failed {entry : Entry} (inside : tree.get? here = some .directory) (writing : o.check = false)
    (failed : ¬ (o.carryOut tree here).EndsWell entry) :
    (o.carryOut tree here).tree.get? = tree.get? ↔ o.Traceless tree here := by
  cases rendered : Generate.render tree here o with
  | error s =>
    rw [Order.carryOut, rendered]
    exact iff_of_true rfl fun text other => by cases rendered.symm.trans other
  | ok text =>
    rw [carryOut_eq rendered writing] at failed ⊢
    cases stays : mayStay tree here (FilePath.ofText o.output).text text with
    | error s =>
      refine iff_of_true rfl fun text' again changes => ?_
      cases rendered.symm.trans again
      cases stays.symm.trans changes
    | ok stay =>
      rw [stays] at failed
      cases stay with
      | true => exact absurd rfl failed
      | false =>
        have stopped := mt store_endsWell_iff.mpr failed
        rw [store_failed inside (FilePath.ofText_plain o.output) (find_of_mayStay stays) stopped]
        exact ⟨fun clear _ _ _ => clear, fun traceless => traceless text rendered stays⟩

end Generate

/-- Only the command that generates changes anything. -/
theorem Program.report_tree {tree : FileTree} {here : Directory} {words : List Text}
    (other : ∀ rest, readOptions words >>= resolve ≠ .ok (.generate, rest)) : (report tree here words).tree = tree := by
  cases called : readOptions words >>= resolve with
  | error s =>
    rw [report, called]
    split
    · rfl
    · rfl
  | ok call =>
    obtain ⟨c, rest⟩ := call
    rw [report_called called]
    cases c with
    | generate => exact absurd called (other rest)
    | inspect => exact Inspect.run_tree tree here rest
    | program => rfl

/-- A run changes nothing unless it is to write a file. If it fails to, everything is as it was exactly if it
leaves no trace. If it succeeds, it keeps everything, or it stores the text that it generates, and makes no more
than directories above it. -/
theorem Program.run_frame {entry : Entry} {tree left : FileTree} {here : Directory} {words : List Text} {exit : Exit}
    (inside : tree.get? here = some .directory) (ran : run entry tree here words = (exit, left)) :
    ((∀ rest, readOptions words >>= resolve ≠ .ok (.generate, rest)) → left = tree) ∧
      ∀ rest, readOptions words >>= resolve = .ok (.generate, rest) →
        ((∀ o, Generate.Order.read tree here rest = .ok o → o.check = true) → left = tree) ∧
        ∀ o, Generate.Order.read tree here rest = .ok o → o.check = false →
          (exit.code ≠ 0 → (left.get? = tree.get? ↔ o.Traceless tree here)) ∧
          (exit.code = 0 →
            exit.out = unlines ["unchanged: " ++ (FilePath.ofText o.output).text] ∧ left = tree ∨
            exit.out = unlines ["generated: " ++ (FilePath.ofText o.output).text] ∧
              ∃ text bytes, Generate.render tree here o = .ok text ∧ Text.encode text = .ok bytes ∧
                tree.Stored left here (FilePath.ofText o.output) bytes) := by
  rw [run] at ran
  cases ran
  refine ⟨report_tree, fun rest called => ?_⟩
  rw [report_called called, perform, Generate.run]
  refine ⟨fun checking => ?_, fun o read writing => ?_⟩
  · cases read : Generate.Order.read tree here rest with
    | error s => rfl
    | ok o => exact Generate.carryOut_check tree here (checking o read)
  · rw [read]
    refine ⟨Generate.carryOut_failed inside writing, fun done => ?_⟩
    rcases Generate.carryOut_stored writing done with kept | ⟨none, said, stored⟩
    · dsimp only
      rw [kept]
      exact Or.inl ⟨rfl, rfl⟩
    · dsimp only
      rw [none, said]
      exact Or.inr ⟨rfl, stored⟩

namespace Generate

theorem run_frame_empty :
    (∃ left bytes, Program.run .user (besideEmpty []) [] ("generate" :: emptyWords) =
        (⟨0, "generated: out.py\n", []⟩, left) ∧ Text.encode emptyFile = .ok bytes ∧
      (besideEmpty []).Stored left [] (FilePath.ofText "out.py") bytes) ∧
    (Program.run .user (besideEmpty []) [] ("generate" :: "--check" :: emptyWords)).2 = besideEmpty [] := by
  constructor
  · have called : Program.readOptions ("generate" :: emptyWords) >>= Program.resolve = .ok (.generate, emptyWords) :=
      rfl
    obtain ⟨left, stored⟩ := store_empty
    have carried : Program.report (besideEmpty []) [] ("generate" :: emptyWords) =
        .line left ("generated: " ++ (FilePath.ofText "out.py").text) := by
      rw [report_generate, run, read_empty]
      dsimp only
      rw [carryOut_eq (render_empty []) rfl]
      exact stored
    have ran : Program.run .user (besideEmpty []) [] ("generate" :: emptyWords) =
        (⟨0, "generated: out.py\n", []⟩, left) := by
      rw [Program.run, carried]
      rfl
    obtain ⟨_, ends⟩ := ((Program.run_frame rfl ran).2 _ called).2 _ read_empty rfl
    rcases ends rfl with ⟨kept, _⟩ | ⟨_, text, bytes, rendered, encoded, stored⟩
    · cases kept
    · cases (render_empty []).symm.trans rendered
      exact ⟨left, bytes, ran, encoded, stored⟩
  · have called : Program.readOptions ("generate" :: "--check" :: emptyWords) >>= Program.resolve =
        .ok (.generate, "--check" :: emptyWords) := rfl
    have read : Order.read (besideEmpty []) [] ("--check" :: emptyWords) = .ok { emptyOrder with check := true } := rfl
    obtain ⟨exit, left, ran⟩ : ∃ exit left,
        Program.run .user (besideEmpty []) [] ("generate" :: "--check" :: emptyWords) = (exit, left) := ⟨_, _, rfl⟩
    rw [ran]
    refine ((Program.run_frame (FileTree.get?_nil _) ran).2 _ called).1 fun o again => ?_
    cases read.symm.trans again
    rfl

/-- What is generated does not depend on where it goes. -/
theorem render_output (tree : FileTree) (here : Directory) (o : Order) (output : Text) :
    Generate.render tree here { o with output := output } = Generate.render tree here o :=
  rfl

/-- The words that order a file above a directory that is missing. -/
def aboveWords : List Text :=
  ["--in", "models.py", "--out", "new/.."]

/-- A run makes a directory on the way to an output that is a directory itself, and fails. -/
theorem directory_left :
    (Program.run .code (besideEmpty []) [] ("generate" :: aboveWords)).1 =
        ⟨1, [], "Error: [Errno 21] Is a directory: 'new/..'\n"⟩ ∧
      (besideEmpty []).get? [Text.ofString "new"] = none ∧
      (Program.run .code (besideEmpty []) [] ("generate" :: aboveWords)).2.get? [Text.ofString "new"] =
        some .directory := by
  have read : Order.read (besideEmpty []) [] aboveWords = .ok { emptyOrder with output := "new/.." } := rfl
  have rendered : Generate.render (besideEmpty []) [] { emptyOrder with output := "new/.." } = .ok emptyFile :=
    (render_output _ _ emptyOrder _).trans (render_empty [])
  have passed : (besideEmpty []).ensureDirectories [] (FilePath.ofText "new/..").parent =
      ((besideEmpty []).put [Text.ofString "new"] .directory, none) := rfl
  have unwritten : ∀ bytes, ((besideEmpty []).put [Text.ofString "new"] .directory).write []
      (FilePath.ofText "new/..").text bytes = .error ⟨.isDirectory, "new/.."⟩ := fun _ => rfl
  have carried : Program.report (besideEmpty []) [] ("generate" :: aboveWords) =
      .stopped ((besideEmpty []).put [Text.ofString "new"] .directory)
        (.failed (FileFault.mk .isDirectory "new/..").message) := by
    have absent : mayStay (besideEmpty []) [] (FilePath.ofText "new/..").text emptyFile = .ok false := rfl
    rw [report_generate, run, read]
    dsimp only
    rw [carryOut_eq rendered rfl]
    dsimp only
    rw [absent]
    simp only [store, passed, writeText, encode_empty, unwritten]
  rw [Program.run, carried]
  exact ⟨rfl, rfl, FileTree.get?_put (by decide)⟩

end Generate

end FluentRecords
