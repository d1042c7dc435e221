import AmbientTypes.CommandLine.Run
import AmbientTypes.Proofs.FileTree
import Mathlib.Data.List.Infix

namespace AmbientTypes.CommandLine

section Sound

variable {σ : Type}

/-- A shell with the files that its state holds. Making a directory changes none of them and a write
changes no other one, whatever comes of it; a write that succeeds leaves its content. -/
structure Shell.IsSound (shell : Shell (StateM σ))
    (file? : σ → Location → Option (List UInt8)) : Prop where
  made : ∀ l s, file? ((shell.makeDirectory l).run s).2 = file? s
  kept : ∀ l content s other, other ≠ l →
    file? ((shell.write l content).run s).2 other = file? s other
  written : ∀ l content s, ((shell.write l content).run s).1 = .ok () →
    file? ((shell.write l content).run s).2 l = some content

theorem state_bind {α β : Type} (x : StateM σ α) (f : α → StateM σ β) (s : σ) :
    (x >>= f).run s = (f (x.run s).1).run (x.run s).2 := rfl

theorem attempt_run (change : FileTree → Except FileFault FileTree) (t : FileTree) :
    (attempt change).run t = match change t with
      | .error e => (.error e, t)
      | .ok after => (.ok (), after) := by
  have known : (get : StateM FileTree FileTree).run t = (t, t) := rfl
  rw [attempt, state_bind, known]
  cases change t <;> rfl

theorem treeShell_isSound (place : Location) (environment : Settings.Environment)
    (network : Network) (configure : Bool → Except Logging.SetupFault Unit) (input : List UInt8) :
    (treeShell place environment network configure input).IsSound FileTree.file? := by
  constructor
  · intro l t
    simp only [treeShell, attempt_run]
    cases made : t.makeDirectory l with
    | error e => rfl
    | ok after => exact FileTree.file?_makeDirectory made
  · intro l content t other different
    simp only [treeShell, attempt_run]
    cases written : t.write l content with
    | error e => rfl
    | ok after => exact FileTree.file?_write_of_ne different written
  · intro l content t success
    simp only [treeShell, attempt_run] at success ⊢
    cases written : t.write l content with
    | error e => simp [written] at success
    | ok after => exact FileTree.file?_write written

end Sound

variable {σ : Type} {shell : Shell (StateM σ)} {file? : σ → Location → Option (List UInt8)}

section PutFile

variable {l other : Location} {content : String} {s after : σ}

theorem putFile_run (shell : Shell (StateM σ)) (l : Location) (content : String) (s : σ) :
    (putFile shell l content).run s = match (shell.makeDirectory l.dropLast).run s with
      | (.error e, middle) => (.error e, middle)
      | (.ok (), middle) => (shell.write l content.toUTF8.toList).run middle := by
  rw [putFile, state_bind]
  cases (shell.makeDirectory l.dropLast).run s with
  | mk result middle => cases result <;> rfl

theorem Shell.IsSound.file?_putFile_of_ne {result : Except FileFault Unit}
    (sound : shell.IsSound file?) (put : (putFile shell l content).run s = (result, after))
    (different : other ≠ l) : file? after other = file? s other := by
  have made := sound.made l.dropLast s
  rw [putFile_run] at put
  cases making : (shell.makeDirectory l.dropLast).run s with
  | mk answer middle =>
    rw [making] at put made
    cases answer with
    | error e =>
      obtain ⟨rfl, rfl⟩ := Prod.mk.inj put
      exact congrFun made other
    | ok u =>
      change (shell.write l content.toUTF8.toList).run middle = (result, after) at put
      have kept := sound.kept l content.toUTF8.toList middle other different
      rw [put] at kept
      exact kept.trans (congrFun made other)

theorem Shell.IsSound.file?_putFile (sound : shell.IsSound file?)
    (put : (putFile shell l content).run s = (.ok (), after)) :
    file? after l = some content.toUTF8.toList := by
  rw [putFile_run] at put
  cases making : (shell.makeDirectory l.dropLast).run s with
  | mk result middle =>
    rw [making] at put
    cases result with
    | error e => cases put
    | ok u =>
      change (shell.write l content.toUTF8.toList).run middle = (.ok (), after) at put
      have written := sound.written l content.toUTF8.toList middle
      rw [put] at written
      exact written rfl

end PutFile

/-- What the writing of documents comes to, with one constructor for each way in which the first of
them can be taken. -/
inductive Writes (shell : Shell (StateM σ)) (root : Location) :
    List Document → σ → Writing → σ → Prop where
  | done (s : σ) : Writes shell root [] s ⟨0, [], none⟩ s
  | marked {d : Document} (nul : '\x00' ∈ d.path.toList) (ds : List Document) (s : σ) :
      Writes shell root (d :: ds) s ⟨0, [], some .nulCharacter⟩ s
  | outside {d : Document} {ds : List Document} {s after : σ} {w : Writing}
      (plain : '\x00' ∉ d.path.toList) (out : ¬ root <+: root.follow d.path)
      (rest : Writes shell root ds s w after) :
      Writes shell root (d :: ds) s { w with events := outsideEvent d.path :: w.events } after
  | failed {d : Document} {s after : σ} {e : FileFault}
      (plain : '\x00' ∉ d.path.toList) (within : root <+: root.follow d.path)
      (put : (putFile shell (root.follow d.path) d.content).run s = (.error e, after))
      (ds : List Document) : Writes shell root (d :: ds) s ⟨0, [], some e⟩ after
  | written {d : Document} {ds : List Document} {s middle after : σ} {w : Writing}
      (plain : '\x00' ∉ d.path.toList) (within : root <+: root.follow d.path)
      (put : (putFile shell (root.follow d.path) d.content).run s = (.ok (), middle))
      (rest : Writes shell root ds middle w after) :
      Writes shell root (d :: ds) s { w with written := w.written + 1 } after

section Writing

variable {root l : Location} {ds above below : List Document} {s middle after : σ}
  {w later : Writing}

theorem writeDocuments_cons (shell : Shell (StateM σ)) (root : Location) (d : Document)
    (ds : List Document) (s : σ) :
    (writeDocuments shell root (d :: ds)).run s =
      if '\x00' ∈ d.path.toList then (⟨0, [], some .nulCharacter⟩, s)
      else if root <+: root.follow d.path then
        match (putFile shell (root.follow d.path) d.content).run s with
        | (.error e, after) => (⟨0, [], some e⟩, after)
        | (.ok (), middle) =>
          let (w, after) := (writeDocuments shell root ds).run middle
          ({ w with written := w.written + 1 }, after)
      else
        let (w, after) := (writeDocuments shell root ds).run s
        ({ w with events := outsideEvent d.path :: w.events }, after) := by
  rw [writeDocuments]
  by_cases nul : '\x00' ∈ d.path.toList
  · simp only [List.contains_iff_mem, nul, ite_true]
    rfl
  by_cases within : root <+: root.follow d.path
  · have inside : (root.follow d.path).isWithin root = true := Location.isWithin_iff.mpr within
    simp only [List.contains_iff_mem, nul, inside, within, Bool.not_true, Bool.false_eq_true,
      ite_true, ite_false]
    rw [state_bind]
    cases (putFile shell (root.follow d.path) d.content).run s with
    | mk result middle => cases result <;> rfl
  · have outside : (root.follow d.path).isWithin root = false :=
      Bool.eq_false_iff.mpr (mt Location.isWithin_iff.mp within)
    simp only [List.contains_iff_mem, nul, outside, within, Bool.not_false, ite_true, ite_false]
    rfl

theorem writes_run (shell : Shell (StateM σ)) (root : Location) (ds : List Document) (s : σ) :
    Writes shell root ds s ((writeDocuments shell root ds).run s).1
      ((writeDocuments shell root ds).run s).2 := by
  induction ds generalizing s with
  | nil => exact .done s
  | cons d ds ih =>
    rw [writeDocuments_cons]
    split
    · next nul => exact .marked nul ds s
    next plain =>
    split
    · next within =>
      cases put : (putFile shell (root.follow d.path) d.content).run s with
      | mk result middle =>
        cases result with
        | error e => exact .failed plain within put ds
        | ok u => exact .written plain within put (ih middle)
    · next out => exact .outside plain out (ih s)

/-- A run has one outcome. -/
theorem Writes.run_eq (writes : Writes shell root ds s w after) :
    (writeDocuments shell root ds).run s = (w, after) := by
  induction writes with
  | done s => rfl
  | marked nul ds s => rw [writeDocuments_cons, if_pos nul]
  | outside plain out rest ih => rw [writeDocuments_cons, if_neg plain, if_neg out, ih]
  | failed plain within put ds => rw [writeDocuments_cons, if_neg plain, if_pos within, put]
  | written plain within put rest ih =>
    rw [writeDocuments_cons, if_neg plain, if_pos within, put]
    simp only [ih]

/-- No file out of the root changes, however far a run comes. -/
theorem Writes.file?_of_outside (sound : shell.IsSound file?)
    (writes : Writes shell root ds s w after) (out : ¬ root <+: l) : file? after l = file? s l := by
  have apart {d : Document} (within : root <+: root.follow d.path) : l ≠ root.follow d.path :=
    fun same => out (same ▸ within)
  induction writes with
  | done s => rfl
  | marked nul ds s => rfl
  | outside plain out rest ih => exact ih
  | failed plain within put ds => exact sound.file?_putFile_of_ne put (apart within)
  | written plain within put rest ih =>
    exact ih.trans (sound.file?_putFile_of_ne put (apart within))

/-- The last document whose path leads from a root to a location. -/
def lastAt? (root l : Location) (documents : List Document) : Option Document :=
  documents.reverse.find? fun d => root.follow d.path = l

theorem lastAt?_cons (root l : Location) (d : Document) (ds : List Document) :
    lastAt? root l (d :: ds) =
      (lastAt? root l ds).or (if root.follow d.path = l then some d else none) := by
  simp [lastAt?, List.find?_append, List.find?_singleton]

/-- A run that nothing stops leaves in each file what the last document for it says. -/
theorem Writes.file?_of_within (sound : shell.IsSound file?)
    (writes : Writes shell root ds s w after) (done : w.fault = none) (below : root <+: l) :
    file? after l = ((lastAt? root l ds).map (·.content.toUTF8.toList)).or (file? s l) := by
  induction writes with
  | done s => rfl
  | marked nul ds s => cases done
  | outside plain out rest ih =>
    have apart : root.follow _ ≠ l := fun same => out (same ▸ below)
    rw [ih done, lastAt?_cons, if_neg apart, Option.or_none]
  | failed plain within put ds => cases done
  | @written d ds s middle after w plain within put rest ih =>
    rw [ih done, lastAt?_cons, Option.map_or, Option.or_assoc]
    congr 1
    by_cases same : root.follow d.path = l
    · rw [if_pos same, ← same, sound.file?_putFile put]
      rfl
    · rw [if_neg same, sound.file?_putFile_of_ne put (Ne.symm same)]
      rfl

/-- A run that nothing stops has counted the documents within the root and reported the others. -/
theorem Writes.of_completed (writes : Writes shell root ds s w after) (done : w.fault = none) :
    w.written = ds.countP (fun d => root <+: root.follow d.path) ∧
    w.events = (ds.filter fun d => ¬ root <+: root.follow d.path).map (outsideEvent ·.path) := by
  induction writes with
  | done s => simp
  | marked nul ds s => cases done
  | outside plain out rest ih =>
    obtain ⟨count, events⟩ := ih done
    exact ⟨by simp [out, count], by simp [out, events]⟩
  | failed plain within put ds => cases done
  | written plain within put rest ih =>
    obtain ⟨count, events⟩ := ih done
    exact ⟨by simp [within, count], by simp [within, events]⟩

theorem Writes.append (first : Writes shell root above s w middle) (done : w.fault = none)
    (second : Writes shell root below middle later after) :
    Writes shell root (above ++ below) s
      ⟨w.written + later.written, w.events ++ later.events, later.fault⟩ after := by
  induction first with
  | done s => simpa using second
  | marked nul ds s => cases done
  | outside plain out rest ih => exact .outside plain out (ih done second)
  | failed plain within put ds => cases done
  | written plain within put rest ih =>
    have whole := Writes.written plain within put (ih done second)
    simpa [Nat.add_right_comm] using whole

/-- A run that has been stopped takes no document after. -/
theorem Writes.append_of_fault (first : Writes shell root above s w after)
    (stopped : w.fault ≠ none) (below : List Document) :
    Writes shell root (above ++ below) s w after := by
  induction first with
  | done s => exact absurd rfl stopped
  | marked nul ds s => exact .marked nul _ s
  | outside plain out rest ih => exact .outside plain out (ih stopped)
  | failed plain within put ds => exact .failed plain within put _
  | written plain within put rest ih => exact .written plain within put (ih stopped)

/-- A document that leads out of the root changes nothing but the log. -/
theorem writeDocuments_skip {d : Document} (plain : '\x00' ∉ d.path.toList)
    (out : ¬ root <+: root.follow d.path) (above below : List Document) (s : σ) :
    ∃ events, (writeDocuments shell root (above ++ d :: below)).run s =
      ({ ((writeDocuments shell root (above ++ below)).run s).1 with events := events },
        ((writeDocuments shell root (above ++ below)).run s).2) := by
  have first := writes_run shell root above s
  by_cases done : ((writeDocuments shell root above).run s).1.fault = none
  · have rest := writes_run shell root below ((writeDocuments shell root above).run s).2
    rw [(first.append done (.outside plain out rest)).run_eq, (first.append done rest).run_eq]
    exact ⟨_, rfl⟩
  · rw [(first.append_of_fault done (d :: below)).run_eq,
      (first.append_of_fault done below).run_eq]
    exact ⟨_, rfl⟩

/-- A marked path stops the writing, if nothing before has stopped it. -/
theorem writeDocuments_marked {d : Document} (nul : '\x00' ∈ d.path.toList)
    (above below : List Document) (s : σ) :
    ((writeDocuments shell root (above ++ d :: below)).run s).2 =
      ((writeDocuments shell root above).run s).2 ∧
    ((writeDocuments shell root (above ++ d :: below)).run s).1.fault =
      ((writeDocuments shell root above).run s).1.fault.or (some .nulCharacter) := by
  have first := writes_run shell root above s
  by_cases done : ((writeDocuments shell root above).run s).1.fault = none
  · rw [(first.append done (.marked nul below _)).run_eq, done]
    exact ⟨rfl, rfl⟩
  · rw [(first.append_of_fault done (d :: below)).run_eq]
    obtain ⟨e, stopped⟩ := Option.ne_none_iff_exists'.mp done
    rw [stopped]
    exact ⟨rfl, rfl⟩

end Writing

/-- What is said of a writing below a root. -/
def Writing.result (w : Writing) (root : Location) (events : List Event) : Result :=
  match w.fault with
  | some fault => crashed (.file fault) (events ++ w.events)
  | none =>
    { output := s!"Wrote {w.written} declaration file(s) to {root.text}\n"
      events := events ++ w.events }

theorem Writing.crash_result (w : Writing) (root : Location) (events : List Event) :
    (w.result root events).crash = w.fault.map .file := by
  obtain ⟨written, entries, fault⟩ := w
  cases fault <;> rfl

theorem Writing.result_of_none {w : Writing} (done : w.fault = none) (root : Location)
    (events : List Event) : w.result root events =
      { output := s!"Wrote {w.written} declaration file(s) to {root.text}\n"
        events := events ++ w.events } := by
  rw [Writing.result, done]

theorem deliver_run (shell : Shell (StateM σ)) (output : String) (documents : List Document)
    (events : List Event) (s : σ) :
    (deliver shell (some output) documents events).run s =
      if '\x00' ∈ output.toList then (crashed (.file .nulCharacter) events, s)
      else
        let root := shell.place.follow output
        let (w, after) := (writeDocuments shell root documents).run s
        (w.result root events, after) := by
  rw [deliver]
  by_cases nul : '\x00' ∈ output.toList
  · simp only [List.contains_iff_mem, nul, ite_true]
    rfl
  · simp only [List.contains_iff_mem, nul, ite_false]
    rw [state_bind]
    cases (writeDocuments shell (shell.place.follow output) documents).run s with
    | mk w after =>
      obtain ⟨written, entries, fault⟩ := w
      cases fault <;> rfl

/-- Whatever the paths are, no file out of the root changes, and a document that leads out of it is
passed over. At the end of a run that nothing breaks off, each file within the root holds what the
last document for it says. A run over a path with a NUL is broken off at this document, wherever it
leads. -/
theorem documents_stay_below_the_root (sound : shell.IsSound file?) (output : String)
    (events : List Event) (s : σ) :
    let root := shell.place.follow output
    let run (documents : List Document) := (deliver shell (some output) documents events).run s
    (∀ documents l, ¬ root <+: l → file? (run documents).2 l = file? s l) ∧
    (∀ above d below, '\x00' ∉ d.path.toList → ¬ root <+: root.follow d.path →
      (run (above ++ d :: below)).2 = (run (above ++ below)).2 ∧
      (run (above ++ d :: below)).1 =
        { (run (above ++ below)).1 with events := (run (above ++ d :: below)).1.events }) ∧
    (∀ documents, (run documents).1.crash = none →
      (∀ l, root <+: l → file? (run documents).2 l =
        ((lastAt? root l documents).map (·.content.toUTF8.toList)).or (file? s l)) ∧
      (let count := documents.countP fun d => root <+: root.follow d.path
       (run documents).1.output = s!"Wrote {count} declaration file(s) to {root.text}\n") ∧
      (run documents).1.events = events ++
        (documents.filter fun d => ¬ root <+: root.follow d.path).map (outsideEvent ·.path)) ∧
    (∀ above d below, '\x00' ∈ d.path.toList →
      (run (above ++ d :: below)).2 = (run above).2 ∧
      (run (above ++ d :: below)).1.crash =
        (run above).1.crash.or (some (.file .nulCharacter))) := by
  intro root run
  by_cases nul : '\x00' ∈ output.toList
  · have refused documents : run documents = (crashed (.file .nulCharacter) events, s) := by
      simp only [run, deliver_run, if_pos nul]
    refine ⟨fun documents l _ => by rw [refused], fun above d below _ _ => ?_,
      fun documents done => ?_, fun above d below _ => ?_⟩
    · rw [refused, refused]
      exact ⟨rfl, rfl⟩
    · rw [refused] at done
      cases done
    · rw [refused, refused]
      exact ⟨rfl, rfl⟩
  have writing documents : run documents =
      (((writeDocuments shell root documents).run s).1.result root events,
        ((writeDocuments shell root documents).run s).2) := by
    simp only [run, deliver_run, if_neg nul]
    rfl
  simp only [writing]
  refine ⟨?frame, ?skipped, ?completed, ?marked⟩
  case frame =>
    intro documents l out
    exact (writes_run shell root documents s).file?_of_outside sound out
  case skipped =>
    intro above d below plain out
    obtain ⟨entries, same⟩ := writeDocuments_skip plain out above below s
    rw [same]
    refine ⟨rfl, ?_⟩
    obtain ⟨written, shorter, fault⟩ := ((writeDocuments shell root (above ++ below)).run s).1
    cases fault <;> rfl
  case completed =>
    intro documents done
    have writes := writes_run shell root documents s
    rw [Writing.crash_result, Option.map_eq_none_iff] at done
    obtain ⟨count, entries⟩ := writes.of_completed done
    rw [Writing.result_of_none done, count, entries]
    exact ⟨fun l within => writes.file?_of_within sound done within, rfl, rfl⟩
  case marked =>
    intro above d below nul
    obtain ⟨state, fault⟩ := writeDocuments_marked nul above below s
    refine ⟨state, ?_⟩
    rw [Writing.crash_result, Writing.crash_result, fault, Option.map_or]
    rfl

/-- A shell in a directory of a tree, with no network. -/
def homeShell : Shell (StateM FileTree) :=
  treeShell ["home"] [] (fun _ => .timeout) (fun _ => .ok ()) []

/-- A path that climbs and comes back, one next to the root, and one from the top into the root. -/
def climbing : List Document :=
  [⟨"a/../b.d.ts", "1"⟩, ⟨"../outer/b.d.ts", "2"⟩, ⟨"/home/out/b.d.ts", "3"⟩]

theorem climbing_documents_stay_below_the_root :
    homeShell.IsSound FileTree.file? ∧
    (let (told, after) := (deliver homeShell (some "out") climbing []).run ⟨[], []⟩
     after.file? ["home", "outer", "b.d.ts"] = none ∧
     after.file? ["home", "out", "b.d.ts"] = some "3".toUTF8.toList ∧
     told.output = "Wrote 2 declaration file(s) to /home/out\n") := by
  have sound : homeShell.IsSound FileTree.file? := treeShell_isSound _ _ _ _ _
  obtain ⟨frame, -, completed, -⟩ := documents_stay_below_the_root sound "out" [] ⟨[], []⟩
  have done : ((deliver homeShell (some "out") climbing []).run ⟨[], []⟩).1.crash = none :=
    Option.isNone_iff_eq_none.mp (by decide +kernel)
  obtain ⟨contents, output, -⟩ := completed climbing done
  refine ⟨sound, ?_, ?_, ?_⟩
  · exact frame climbing ["home", "outer", "b.d.ts"] (by decide +kernel)
  · exact (contents ["home", "out", "b.d.ts"] (by decide +kernel)).trans (by decide +kernel)
  · exact output.trans (by decide +kernel)

/-- A path with a NUL that leads out of the root is not passed over: no document after it is
written. -/
theorem nul_keeps_documents_from_being_written :
    ¬ ["home", "out"] <+: Location.follow ["home", "out"] "../a\x00.d.ts" ∧
    (let run documents := (deliver homeShell (some "out") documents []).run ⟨[], []⟩
     (run [⟨"../a\x00.d.ts", ""⟩, ⟨"b.d.ts", ""⟩]).2.file? ["home", "out", "b.d.ts"] = none ∧
     (run [⟨"b.d.ts", ""⟩]).2.file? ["home", "out", "b.d.ts"] = some [] ∧
     (run [⟨"../a\x00.d.ts", ""⟩, ⟨"b.d.ts", ""⟩]).1.crash.map Crash.kind = some "ValueError") := by
  decide +kernel

end AmbientTypes.CommandLine
