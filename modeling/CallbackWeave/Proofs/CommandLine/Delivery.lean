import CallbackWeave.CommandLine.Run
import CallbackWeave.Proofs.FileTree.Likeness
import CallbackWeave.Proofs.FileTree.Writing
import CallbackWeave.Proofs.Pipeline.Frame

/-!
Filtering is all or nothing. Everything that can go wrong goes wrong before the output is touched,
and what is written has been worked out by then, so that the output may be the very file from which
the text comes.
-/

namespace CallbackWeave

namespace Elision

/-- The walk looks at the files only to tell which names are foreign. -/
theorem filterFrom_congr {b : Boundary} {fs other : FileSystem}
    (h : ∀ name, b.isForeign fs name = b.isForeign other name) (depth : Nat) (lines : List Bytes) :
    filterFrom b fs depth lines = filterFrom b other depth lines := by
  have hStep : ∀ depth line, step b fs depth line = step b other depth line := fun depth line => by
    simp only [step, onMarker, h]
  induction lines generalizing depth with
  | nil => rfl
  | cons line rest ih => simp only [filterFrom, hStep, ih]

/-- What a boundary keeps of some bytes is told from the tree only by what the names of the markers
lead to. -/
theorem filterBytes_congr {t other : FileTree} (h : t ≈ other) (site : Site) (b : Boundary)
    (bytes : Bytes) : filterBytes b ⟨site, t⟩ bytes = filterBytes b ⟨site, other⟩ bytes := by
  refine filterFrom_congr (fun name => ?_) 0 _
  simp only [Boundary.isForeign, Boundary.isOutside, FileSystem.holds_congr h site]

end Elision

namespace FilterRequest

/-- The command that makes the text, if there is one, changes no file. -/
def SparesFiles (r : FilterRequest) (starter : Starter) (fs : FileSystem) : Prop :=
  ∀ program arguments, r.input = some (.command (program :: arguments)) →
    ∀ ended, starter fs ⟨program⟩ arguments none = .ok ended → ended.tree ≈ fs.tree

/-- What is to be delivered: what the walk leaves of the text, both in the files as they are before
the command. There is nothing if the settings, the project or the text are not to be had. -/
def Yields (r : FilterRequest) (starter : Starter) (fs : FileSystem) (bytes : Bytes) : Prop :=
  ∃ settings input text, r.prepare fs = .ok (settings, input) ∧
    (input.read starter fs).1 = .ok text ∧
    bytes = Elision.write (Elision.filterBytes (r.boundary fs settings) fs text).lines

/-- The output can be created, and has room. -/
def Takes (r : FilterRequest) (fs : FileSystem) (bytes : Bytes) : Prop :=
  ∀ path, r.output = some path →
    (∃ spot, fs.writable path = .ok spot) ∧ (fs.device? path = some .full → bytes = [])

/-- How bytes are delivered. -/
structure Delivers (r : FilterRequest) (fs : FileSystem) (bytes : Bytes) (e : CommandEnd) :
    Prop where
  /-- Without an output they are printed, and no file changes. -/
  printed : r.output = none → e.output = bytes ∧ e.tree ≈ fs.tree
  /-- The file that the output names holds them, no other one changes, and nothing is printed. -/
  kept : ∀ path, r.output = some path → fs.device? path = none →
    FileSystem.read ⟨fs.toSite, e.tree⟩ path = .ok bytes ∧ e.output = [] ∧
      ∃ spot, fs.writable path = .ok spot ∧ FileTree.AgreeBeside [spot.place] fs.tree e.tree
  /-- A device takes them, which is to print them if it is the output of the program, and no file
  changes. -/
  taken : ∀ path device, r.output = some path → fs.device? path = some device →
    e.output = (if device = .output then bytes else []) ∧ e.tree ≈ fs.tree

variable {r : FilterRequest} {starter : Starter} {fs : FileSystem} {bytes : Bytes}

section

variable {path : Path} (hOutput : r.output = some path)

include hOutput

/-- An output takes some bytes if it can be opened, and if they are none or it is no device that is
always full. -/
theorem takes_iff : r.Takes fs bytes ↔
    (∃ spot, fs.writable path = .ok spot) ∧ (fs.device? path = some .full → bytes = []) := by
  simp [Takes, hOutput]

/-- What a file holds afterwards has been delivered to it. -/
theorem delivers_of_file (hDevice : fs.device? path = none) {spot : Spot}
    (hWritable : fs.writable path = .ok spot) {tree : FileTree}
    (hRead : FileSystem.read ⟨fs.toSite, tree⟩ path = .ok bytes)
    (hBeside : FileTree.AgreeBeside [spot.place] fs.tree tree) :
    r.Delivers fs bytes ⟨.ok (), [], tree⟩ where
  printed hNone := by simp [hOutput] at hNone
  kept other hOther _ := by
    obtain rfl := Option.some.inj (hOutput.symm.trans hOther)
    exact ⟨hRead, rfl, spot, hWritable, hBeside⟩
  taken other device hOther hTaken := by
    obtain rfl := Option.some.inj (hOutput.symm.trans hOther)
    cases hDevice.symm.trans hTaken

/-- What is delivered to a device changes no file, and only that of the output shows it. -/
theorem delivers_of_device {device : Device} (hDevice : fs.device? path = some device) :
    r.Delivers fs bytes ⟨.ok (), if device = .output then bytes else [], fs.tree⟩ where
  printed hNone := by simp [hOutput] at hNone
  kept other hOther hFile := by
    obtain rfl := Option.some.inj (hOutput.symm.trans hOther)
    cases hDevice.symm.trans hFile
  taken other found hOther hFound := by
    obtain rfl := Option.some.inj (hOutput.symm.trans hOther)
    obtain rfl := Option.some.inj (hDevice.symm.trans hFound)
    exact ⟨rfl, Setoid.refl _⟩

/-- An output that cannot be opened leaves the files as they were, and nothing is printed. -/
theorem deliver_of_unwritable {cause : IoError} (hWritable : fs.writable path = .error cause) :
    ∃ complaint, r.deliver fs bytes = ⟨.error complaint, [], fs.tree⟩ := by
  simp only [deliver, hOutput, hWritable]
  exact ⟨_, rfl⟩

variable {spot : Spot} (hWritable : fs.writable path = .ok spot)

include hWritable

/-- An output that does not take the bytes leaves the files as they were. -/
theorem deliver_of_refused {cause : IoError} (hWrite : fs.write path bytes = .error cause) :
    ∃ complaint, r.deliver fs bytes = ⟨.error complaint, [], fs.tree⟩ := by
  simp only [deliver, hOutput, hWritable, hWrite]
  exact ⟨_, rfl⟩

theorem deliver_of_write {tree : FileTree} (hWrite : fs.write path bytes = .ok tree) :
    r.deliver fs bytes =
      ⟨.ok (), if fs.device? path = some .output then bytes else [], tree⟩ := by
  simp only [deliver, hOutput, hWritable, hWrite]

end

/-- What can be created takes the bytes as long as it has room; otherwise nothing happens. -/
theorem deliver_cases (r : FilterRequest) (hSound : fs.Sound) (bytes : Bytes) :
    (r.Takes fs bytes ∧ (r.deliver fs bytes).result = .ok () ∧
      r.Delivers fs bytes (r.deliver fs bytes)) ∨
    (¬ r.Takes fs bytes ∧ ∃ complaint, r.deliver fs bytes = ⟨.error complaint, [], fs.tree⟩) := by
  cases hOutput : r.output with
  | none =>
      have hEnd : r.deliver fs bytes = ⟨.ok (), bytes, fs.tree⟩ := by rw [deliver, hOutput]
      rw [hEnd]
      exact Or.inl ⟨by simp [Takes, hOutput], rfl, fun _ => ⟨rfl, Setoid.refl _⟩,
        by simp [hOutput], by simp [hOutput]⟩
  | some path =>
      rw [takes_iff hOutput]
      cases hWritable : fs.writable path with
      | error cause => exact Or.inr ⟨by simp, deliver_of_unwritable hOutput hWritable⟩
      | ok spot =>
          cases hDevice : fs.device? path with
          | none =>
              obtain ⟨executable, hWrite⟩ := hSound.write_eq_put hWritable hDevice bytes
              rw [deliver_of_write hOutput hWritable hWrite, hDevice]
              refine Or.inl ⟨by simp, rfl, delivers_of_file hOutput hDevice hWritable
                (hSound.read_put hWritable hDevice bytes executable) ?_⟩
              exact FileTree.AgreeBeside.put (List.mem_singleton.mpr rfl)
                (FileSystem.place_ne_nil_of_writable hWritable) _ _
          | some device =>
              have hWrite := hSound.write_eq_of_device hWritable hDevice bytes
              by_cases hFull : device = .full ∧ bytes ≠ []
              · rw [if_pos hFull] at hWrite
                exact Or.inr ⟨by simpa using hFull, deliver_of_refused hOutput hWritable hWrite⟩
              · rw [if_neg hFull] at hWrite
                rw [deliver_of_write hOutput hWritable hWrite, hDevice]
                simp only [Option.some.injEq]
                exact Or.inl ⟨⟨⟨spot, rfl⟩, by simpa using hFull⟩, trivial,
                  delivers_of_device hOutput hDevice⟩

section

variable {site : Site} {t other : FileTree} (h : t ≈ other)

include h

/-- Whether an output takes some bytes is the same in trees that are alike. -/
theorem takes_congr : r.Takes ⟨site, t⟩ bytes ↔ r.Takes ⟨site, other⟩ bytes := by
  simp only [Takes, FileSystem.writable_congr h site, FileSystem.device?_congr h site]

/-- What has been delivered from one tree has been delivered from any that is alike. -/
theorem Delivers.congr {e : CommandEnd} (hDelivers : r.Delivers ⟨site, t⟩ bytes e) :
    r.Delivers ⟨site, other⟩ bytes e where
  printed hNone := by
    obtain ⟨hPrinted, hTree⟩ := hDelivers.printed hNone
    exact ⟨hPrinted, Setoid.trans hTree h⟩
  kept path hPath hDevice := by
    rw [← FileSystem.device?_congr h site] at hDevice
    obtain ⟨hRead, hSilent, spot, hWritable, hBeside⟩ := hDelivers.kept path hPath hDevice
    rw [FileSystem.writable_congr h site] at hWritable
    exact ⟨hRead, hSilent, spot, hWritable, fun place hPlace =>
      (hBeside place hPlace).trans (h place)⟩
  taken path device hPath hDevice := by
    rw [← FileSystem.device?_congr h site] at hDevice
    obtain ⟨hPrinted, hTree⟩ := hDelivers.taken path device hPath hDevice
    exact ⟨hPrinted, Setoid.trans hTree h⟩

end

theorem input_of_prepare {settings : Settings} {input : FilterInput}
    (hPrepare : r.prepare fs = .ok (settings, input)) : r.input = some input := by
  simp only [prepare, bind, Except.bind] at hPrepare
  split at hPrepare
  next => cases hPrepare
  next =>
    split at hPrepare
    next => cases hPrepare
    next found hInput =>
      split_ifs at hPrepare
      cases hPrepare
      exact hInput

/-- Reading the input leaves a tree that is alike, if the producer spares the files. -/
theorem read_tree (hProducer : r.SparesFiles starter fs) {input : FilterInput}
    (hInput : r.input = some input) : (input.read starter fs).2 ≈ fs.tree := by
  cases input with
  | file path =>
      simp only [FilterInput.read]
      cases fs.read path <;> exact Setoid.refl fs.tree
  | command tokens =>
      cases tokens with
      | nil => exact Setoid.refl _
      | cons program arguments =>
          simp only [FilterInput.read, FilterInput.readCommand]
          split
          next => exact Setoid.refl _
          next ended hEnded =>
            have hTree := hProducer program arguments hInput ended hEnded
            split_ifs <;> exact hTree

/-- A request yields its bytes only once: they hang on the files and on the producer. -/
theorem Yields.unique {other : Bytes} (h : r.Yields starter fs bytes)
    (hOther : r.Yields starter fs other) : bytes = other := by
  obtain ⟨settings, input, text, hPrepare, hRead, rfl⟩ := h
  obtain ⟨otherSettings, otherInput, otherText, hOtherPrepare, hOtherRead, rfl⟩ := hOther
  cases hPrepare.symm.trans hOtherPrepare
  cases hRead.symm.trans hOtherRead
  rfl

/-- A command that has something to deliver delivers it; another one gives up before. -/
theorem perform_cases (hProducer : r.SparesFiles starter fs) :
    (∃ bytes tree, r.Yields starter fs bytes ∧ tree ≈ fs.tree ∧
      r.perform starter fs = r.deliver ⟨fs.toSite, tree⟩ bytes) ∨
    ((∀ bytes, ¬ r.Yields starter fs bytes) ∧
      ∃ complaint tree, tree ≈ fs.tree ∧ r.perform starter fs = ⟨.error complaint, [], tree⟩) := by
  cases hPrepare : r.prepare fs with
  | error complaint =>
      refine Or.inr ⟨?_, complaint, fs.tree, Setoid.refl _, by simp only [perform, hPrepare]⟩
      rintro bytes ⟨settings, input, text, hFound, -⟩
      cases hPrepare.symm.trans hFound
  | ok found =>
      obtain ⟨settings, input⟩ := found
      have hTree := read_tree hProducer (input_of_prepare hPrepare)
      cases hRead : input.read starter fs with
      | mk result tree =>
          rw [hRead] at hTree
          cases result with
          | error failure =>
              refine Or.inr ⟨?_, _, tree, hTree, by simp only [perform, hPrepare, hRead]; rfl⟩
              rintro bytes ⟨_, _, text, hFound, hText, -⟩
              cases hPrepare.symm.trans hFound
              rw [hRead] at hText
              cases hText
          | ok text =>
              refine Or.inl ⟨_, tree, ⟨settings, input, text, hPrepare, by rw [hRead], rfl⟩, hTree,
                ?_⟩
              simp only [perform, hPrepare, hRead]
              rw [Elision.filterBytes_congr hTree]
              rfl

section

variable (hSound : fs.Sound) (hProducer : r.SparesFiles starter fs)

include hSound hProducer

/-- If the output takes what the request yields, then it is delivered. -/
theorem perform_of_takes (hYields : r.Yields starter fs bytes) (hTakes : r.Takes fs bytes) :
    (r.perform starter fs).result = .ok () ∧ r.Delivers fs bytes (r.perform starter fs) := by
  rcases perform_cases hProducer with ⟨other, tree, hOther, hTree, hEnd⟩ | ⟨hNothing, -⟩
  · obtain rfl := hYields.unique hOther
    have hFound : FileSystem.Sound ⟨fs.toSite, tree⟩ := hSound.of_alike (Setoid.symm hTree)
    rcases r.deliver_cases hFound bytes with ⟨-, hResult, hDelivers⟩ | ⟨hRefused, -⟩
    · rw [hEnd]
      exact ⟨hResult, hDelivers.congr hTree⟩
    · exact absurd ((takes_congr hTree).mpr hTakes) hRefused
  · exact absurd hYields (hNothing bytes)

/-- If the output does not take what the request yields, or nothing is yielded, then the request
fails and the files are as they were. -/
theorem perform_of_refused (hRefused : ∀ bytes, r.Yields starter fs bytes → ¬ r.Takes fs bytes) :
    ∃ complaint tree, tree ≈ fs.tree ∧
      r.perform starter fs = ⟨.error complaint, [], tree⟩ := by
  rcases perform_cases hProducer with ⟨bytes, tree, hYields, hTree, hEnd⟩ | ⟨-, hGivenUp⟩
  · have hFound : FileSystem.Sound ⟨fs.toSite, tree⟩ := hSound.of_alike (Setoid.symm hTree)
    rcases r.deliver_cases hFound bytes with ⟨hTakes, -⟩ | ⟨-, complaint, hGivenUp⟩
    · exact absurd ((takes_congr hTree).mp hTakes) (hRefused bytes hYields)
    · exact ⟨complaint, tree, hTree, hEnd.trans hGivenUp⟩
  · exact hGivenUp

end

/-- Filtering is all or nothing. Let the command that makes the text, if there is one, change no
file. If there is something to deliver and the output takes it, then the command succeeds and
delivers that, which the files as they were before have determined. Otherwise it fails, nothing is
printed, and all files are as they were. -/
theorem perform_allOrNothing (r : FilterRequest) (starter : Starter) (fs : FileSystem)
    (hSound : fs.Sound) (hProducer : r.SparesFiles starter fs) :
    (∃ bytes, r.Yields starter fs bytes ∧ r.Takes fs bytes ∧
      (r.perform starter fs).result = .ok () ∧ r.Delivers fs bytes (r.perform starter fs)) ∨
    ((∀ bytes, r.Yields starter fs bytes → ¬ r.Takes fs bytes) ∧
      (r.perform starter fs).result ≠ .ok () ∧ (r.perform starter fs).output = [] ∧
      (r.perform starter fs).tree ≈ fs.tree) := by
  by_cases hTaken : ∃ bytes, r.Yields starter fs bytes ∧ r.Takes fs bytes
  · obtain ⟨bytes, hYields, hTakes⟩ := hTaken
    exact Or.inl ⟨bytes, hYields, hTakes, perform_of_takes hSound hProducer hYields hTakes⟩
  · have hRefused : ∀ bytes, r.Yields starter fs bytes → ¬ r.Takes fs bytes :=
      fun bytes hYields hTakes => hTaken ⟨bytes, hYields, hTakes⟩
    obtain ⟨complaint, tree, hTree, hEnd⟩ := perform_of_refused hSound hProducer hRefused
    rw [hEnd]
    exact Or.inr ⟨hRefused, by simp, rfl, hTree⟩

/-- Preprocessed text in which a header is entered. -/
def sampleText : Bytes := Utf8.encode "# 1 \"x.h\" 1\nint x;\n# 2 \"a.c\" 2\nint a;\n"

/-- What the walk leaves of it. -/
def sampleRest : Bytes := Utf8.encode "#include \"x.h\"\nint a;\n"

/-- A directory that holds the text, and the output of the program as a device. -/
def sampleFiles : FileSystem where
  workingDirectory := ["work"]
  devices := [(["dev", "stdout"], .output)]
  tree := ⟨[(["dev"], .directory), (["dev", "stdout"], .file [] false), (["work"], .directory),
    (["work", "a.i"], .file sampleText false)]⟩

/-- A request to filter in that directory. -/
def sample (input : FilterInput) (output : Path) : FilterRequest :=
  ⟨⟨"."⟩, some output, false, some input, none⟩

theorem sound_sampleFiles : sampleFiles.Sound where
  home := (FileTree.grounded_nil _).append (show sampleFiles.tree.get? ["work"] = _ from rfl)
  device place hDevice := by
    have hPlace : place = ["dev", "stdout"] := by
      by_contra hOther
      simp [sampleFiles, List.lookup_cons, beq_false_of_ne hOther] at hDevice
    exact ⟨[], false, hPlace ▸ rfl⟩

theorem reaches_text : sampleFiles.Reaches ⟨"a.i"⟩ ["work"] "a.i" :=
  FileSystem.reaches_of_steps (by decide) (by decide) (by decide) (by decide +kernel)

theorem locate_text (purpose : FileTree.Purpose) :
    sampleFiles.locate purpose ⟨"a.i"⟩ = .ok ⟨["work", "a.i"], some (.file sampleText false)⟩ :=
  reaches_text.locate_of_entry purpose rfl (by simp)

theorem prepare_sample (input : FilterInput) (output : Path) :
    (sample input output).prepare sampleFiles = .ok (.standard, input) := by
  have hDirectory : sampleFiles.absolutize ⟨"."⟩ = ⟨"/work"⟩ := by decide +kernel
  have hReaches : sampleFiles.Reaches ⟨"/work"⟩ [] "work" :=
    FileSystem.reaches_of_steps (by decide) (by decide) (by decide) (by decide +kernel)
  have hFound : sampleFiles.isDirectory ⟨"/work"⟩ = true := by
    have hLocate := hReaches.locate_of_entry .target
      (show sampleFiles.tree.get? ["work"] = some .directory from rfl) (by simp)
    simp only [FileSystem.isDirectory, FileSystem.entry?, hLocate]
  simp [prepare, sample, loadSettings, hDirectory, hFound, bind, Except.bind, pure, Except.pure]

/-- Whichever way the sample text is read, the request yields the part behind the boundary. -/
theorem yields_sample {input : FilterInput}
    (hRead : (input.read starter sampleFiles).1 = .ok sampleText) (output : Path) :
    (sample input output).Yields starter sampleFiles sampleRest := by
  -- The boundary depends neither on the source of the text nor on the output.
  have hRest : sampleRest = Elision.write (Elision.filterBytes
      ((sample (.file ⟨"a.i"⟩) ⟨"a.i"⟩).boundary sampleFiles .standard) sampleFiles
        sampleText).lines := by decide +kernel
  exact ⟨.standard, input, sampleText, prepare_sample input output, hRead, hRest⟩

/-- A program that prints the file that is its argument. -/
def printing : Starter := fun fs _ arguments _ => do
  let content ← fs.read ⟨arguments.headD ""⟩
  pure ⟨⟨some 0⟩, content, fs.tree⟩

theorem read_text : sampleFiles.read ⟨"a.i"⟩ = .ok sampleText := by
  simp only [FileSystem.read, locate_text, bind, Except.bind]
  rfl

theorem printing_text :
    printing sampleFiles ⟨"cat"⟩ ["a.i"] none = .ok ⟨⟨some 0⟩, sampleText, sampleFiles.tree⟩ := by
  have hRead : sampleFiles.read ⟨["a.i"].headD ""⟩ = .ok sampleText := read_text
  simp only [printing, hRead, bind, Except.bind]
  rfl

/-- The file from which the text comes is replaced by what the walk leaves of it. -/
theorem perform_allOrNothing_sample :
    sampleFiles.Sound ∧ (sample (.command ["cat", "a.i"]) ⟨"a.i"⟩).SparesFiles printing sampleFiles ∧
    ((sample (.command ["cat", "a.i"]) ⟨"a.i"⟩).perform printing sampleFiles).result = .ok () ∧
    ((sample (.command ["cat", "a.i"]) ⟨"a.i"⟩).perform printing sampleFiles).output = [] ∧
    FileSystem.read ⟨sampleFiles.toSite,
      ((sample (.command ["cat", "a.i"]) ⟨"a.i"⟩).perform printing sampleFiles).tree⟩ ⟨"a.i"⟩ =
        .ok sampleRest := by
  have hProducer :
      (sample (.command ["cat", "a.i"]) ⟨"a.i"⟩).SparesFiles printing sampleFiles := by
    intro program arguments hInput ended hEnded
    obtain ⟨rfl, rfl⟩ : "cat" = program ∧ ["a.i"] = arguments := by
      simpa [sample] using hInput
    obtain rfl := Except.ok.inj (printing_text.symm.trans hEnded)
    exact Setoid.refl _
  have hYields : (sample (.command ["cat", "a.i"]) ⟨"a.i"⟩).Yields printing sampleFiles
      sampleRest := by
    refine yields_sample ?_ _
    simp only [FilterInput.read, FilterInput.readCommand, printing_text]
    rfl
  have hDevice : sampleFiles.device? ⟨"a.i"⟩ = none := by
    simp only [FileSystem.device?, locate_text]
    rfl
  have hTakes : (sample (.command ["cat", "a.i"]) ⟨"a.i"⟩).Takes sampleFiles sampleRest := by
    refine (takes_iff rfl).mpr ⟨⟨⟨["work", "a.i"], some (.file sampleText false)⟩, ?_⟩, ?_⟩
    · simp only [FileSystem.writable, locate_text, bind, Except.bind]
      rfl
    · simp [hDevice]
  rcases perform_allOrNothing (sample (.command ["cat", "a.i"]) ⟨"a.i"⟩) printing sampleFiles
    sound_sampleFiles hProducer with ⟨bytes, hFound, -, hResult, hDelivers⟩ | ⟨hRefused, -⟩
  · obtain rfl := hYields.unique hFound
    obtain ⟨hRead, hSilent, -⟩ := hDelivers.kept _ rfl hDevice
    exact ⟨sound_sampleFiles, hProducer, hResult, hSilent, hRead⟩
  · exact absurd hTakes (hRefused sampleRest hYields)

/-- What is written to the output of the program is printed, although an output has been asked
for. -/
theorem perform_prints_through_device :
    sampleFiles.Sound ∧
    (sample (.file ⟨"a.i"⟩) ⟨"/dev/stdout"⟩).SparesFiles printing sampleFiles ∧
    (sample (.file ⟨"a.i"⟩) ⟨"/dev/stdout"⟩).output = some ⟨"/dev/stdout"⟩ ∧
    ((sample (.file ⟨"a.i"⟩) ⟨"/dev/stdout"⟩).perform printing sampleFiles).result = .ok () ∧
    ((sample (.file ⟨"a.i"⟩) ⟨"/dev/stdout"⟩).perform printing sampleFiles).output ≠ [] := by
  have hProducer :
      (sample (.file ⟨"a.i"⟩) ⟨"/dev/stdout"⟩).SparesFiles printing sampleFiles := by
    intro program arguments hInput
    simp [sample] at hInput
  have hYields : (sample (.file ⟨"a.i"⟩) ⟨"/dev/stdout"⟩).Yields printing sampleFiles
      sampleRest := by
    refine yields_sample ?_ _
    simp only [FilterInput.read, read_text]
  have hReaches : sampleFiles.Reaches ⟨"/dev/stdout"⟩ ["dev"] "stdout" :=
    ⟨by decide, by decide, by decide, [.into "dev"], FileTree.linkLimit, by decide +kernel, by
      have hShort : ¬ "dev".utf8ByteSize > Path.nameLimit := by decide
      have hDirectory : sampleFiles.tree.get? ["dev"] = some .directory := rfl
      have hStart : sampleFiles.start ⟨"/dev/stdout"⟩ = [] := by decide +kernel
      simp [FileTree.descend, hStart, hShort, hDirectory]⟩
  have hLocate := fun purpose => hReaches.locate_of_entry purpose
    (show sampleFiles.tree.get? ["dev", "stdout"] = some (.file [] false) from rfl) (by simp)
  have hDevice : sampleFiles.device? ⟨"/dev/stdout"⟩ = some .output := by
    simp only [FileSystem.device?, hLocate]
    rfl
  have hTakes : (sample (.file ⟨"a.i"⟩) ⟨"/dev/stdout"⟩).Takes sampleFiles sampleRest := by
    refine (takes_iff rfl).mpr ⟨⟨⟨["dev", "stdout"], some (.file [] false)⟩, ?_⟩, ?_⟩
    · simp only [FileSystem.writable, hLocate, bind, Except.bind]
      rfl
    · simp [hDevice]
  obtain ⟨hResult, hDelivers⟩ := perform_of_takes sound_sampleFiles hProducer hYields hTakes
  obtain ⟨hPrinted, -⟩ := hDelivers.taken _ _ rfl hDevice
  refine ⟨sound_sampleFiles, hProducer, rfl, hResult, ?_⟩
  rw [hPrinted]
  decide +kernel

end FilterRequest

end CallbackWeave
