/-
EmbeddedGo.Proofs.ServedFile — which file a server answers a request with.

The path of a request is followed through all links before it is asked whether it lies in the
project. Where the links come to an end no link stands on the way to the path any more
(`chase_straight`), so the file at its end lies where its names say. Two things get past that
question. A directory is answered with its index, whose name is put behind the path only after the
question, and the index may be a link. And where links lead round to themselves they stay in the
path, and the double dots behind them are worked off without asking where they lead.

  §1 what is left of links
  §2 what stands behind a directory
  §3 how a handler runs
  §4 the file that is sent
  §5 where the file lies
  §6 how a request is handled
  §7 the index of a directory
  §8 what a request is answered with
  §9 ways out of the project
-/
import EmbeddedGo.Proofs.Action
import EmbeddedGo.Proofs.Walk
import EmbeddedGo.Server.App

namespace EmbeddedGo

/-! ## §1 Links -/

/-- A path holds the character that no path can hold if one of its names does. -/
theorem Path.nul_mem_text_iff {p : Path} : '\x00' ∈ p.text ↔ ∃ n ∈ p.names, '\x00' ∈ n := by
  have hjoin : ∀ names : List Text,
      '\x00' ∈ Text.join "/" names ↔ ∃ n ∈ names, '\x00' ∈ n := by
    intro names
    induction names with
    | nil => simp [Text.join]
    | cons a rest ih =>
      cases rest with
      | nil => simp [Text.join]
      | cons b rest =>
        rw [Text.join_cons_cons, List.mem_append, List.mem_append, ih]
        simp
  rw [Path.text]
  split
  · next h => simp [h.2]
  · rw [List.mem_append, hjoin]
    refine or_iff_right fun h => ?_
    exact absurd (List.eq_of_mem_replicate h) (by decide)

namespace FileTree

variable {t : FileTree}

theorem isStraight_nil (t : FileTree) : t.IsStraight [] := by
  intro q hq target
  rw [List.prefix_nil.1 hq, entryAt_nil]
  simp

theorem IsStraight.snoc {place : Place} {name : Text} (h : t.IsStraight place)
    (hl : ∀ target, t.entryAt (place ++ [name]) ≠ some (.link target)) :
    t.IsStraight (place ++ [name]) := by
  intro q hq
  rcases List.prefix_concat_iff.1 hq with rfl | hq
  · exact hl
  · exact h q hq

/-- Where following links has come to an end, no link stands on the way and no double dot is left. -/
theorem chase_straight {depth : Nat} {busy : List Place} {names : List Text} {here place : Place}
    (hs : t.IsStraight here) (hd : ['.', '.'] ∉ here)
    (h : t.chase depth busy names here = (place, true)) :
    t.IsStraight place ∧ ['.', '.'] ∉ place := by
  have hstart : ∀ {here : Place} (target : Text), t.IsStraight here → ['.', '.'] ∉ here →
      t.IsStraight (targetStart here target) ∧ ['.', '.'] ∉ targetStart here target := by
    intro here target hs hd
    unfold targetStart
    split
    · exact ⟨isStraight_nil t, by simp⟩
    · exact ⟨hs, hd⟩
  fun_induction chase t depth busy names here generalizing place with
  | case1 depth busy here =>
    cases h
    exact ⟨hs, hd⟩
  | case2 depth busy rest here ih =>
    exact ih (hs.above (List.dropLast_prefix _)) (fun hm => hd ((List.dropLast_sublist here).subset hm)) h
  | case3 busy name rest here _ target m _ => simp at h
  | case4 busy name rest here _ target m _ depth _ => simp at h
  | case5 busy name rest here _ target m _ depth _ inner hinner ih1 ih2 =>
    obtain ⟨hs1, hd1⟩ := ih1 (hstart target hs hd).1 (hstart target hs hd).2 hinner
    exact ih2 hs1 hd1 h
  | case6 busy name rest here _ target m _ depth _ inner hinner ih1 => simp at h
  | case7 depth busy name rest here hdots hitem ih =>
    refine ih (hs.snoc fun target hl => ?_) ?_ h
    · obtain ⟨m, hm⟩ := entryAt_eq_some hl
      exact hitem target m hm
    · rw [List.mem_append, not_or]
      exact ⟨hd, by simpa using Ne.symm hdots⟩

/-- Names are followed one after the other, as far as links come to an end. -/
theorem chase_append (depth : Nat) (busy : List Place) (names more : List Text) (here : Place) :
    t.chase depth busy (names ++ more) here =
      match t.chase depth busy names here with
      | (place, true) => t.chase depth busy more place
      | (place, false) => (place ++ more, false) := by
  fun_induction chase t depth busy names here with
  | case1 depth busy here => rfl
  | case2 depth busy rest here ih => rw [List.cons_append, chase, if_pos rfl, ih]
  | case3 busy name rest here hdots target m hitem =>
    rw [List.cons_append, chase, if_neg hdots, hitem]
    simp
  | case4 busy name rest here hdots target m hitem depth hbusy =>
    rw [List.cons_append, chase, if_neg hdots, hitem]
    dsimp only
    rw [if_pos hbusy, List.append_assoc, List.cons_append]
  | case5 busy name rest here hdots target m hitem depth hbusy inner hinner ih1 ih2 =>
    rw [List.cons_append, chase, if_neg hdots, hitem]
    dsimp only
    rw [if_neg hbusy, hinner]
    exact ih2
  | case6 busy name rest here hdots target m hitem depth hbusy inner hinner ih1 =>
    rw [List.cons_append, chase, if_neg hdots, hitem]
    dsimp only
    rw [if_neg hbusy, hinner, List.append_assoc]
  | case7 depth busy name rest here hdots hitem ih =>
    rw [List.cons_append, chase, if_neg hdots]
    split
    · next target m hm => exact absurd hm (hitem target m)
    · exact ih

/-- Whether the links on the way to a path come to an end. -/
def Ends (t : FileTree) (p : Path) : Prop :=
  (t.chase (t.items.length + 1) [] p.names (if p.isAbsolute then [] else t.here)).2 = true

/-- The real path of a path from the top: the names that are left, if the file system finds its way
through the links among them. -/
theorem realPath_of_absolute {p r : Path} (ha : p.isAbsolute = true) :
    t.realPath p = .ok r ↔ '\x00' ∉ p.text ∧
      r = Path.ofNames (Path.climb (t.chase (t.items.length + 1) [] p.names []).1) ∧
      t.find r ≠ .error .tooManyLinks := by
  unfold realPath
  rw [ha]
  by_cases hnul : '\x00' ∈ p.text
  · simp [hnul]
  · rw [if_neg (by simpa using hnul)]
    dsimp only
    rw [if_pos rfl]
    split
    · next hloop =>
      refine iff_of_false (by simp) ?_
      rintro ⟨-, rfl, hfind⟩
      exact hfind hloop
    · next hfind =>
      constructor
      · intro h
        obtain rfl := Except.ok.inj h
        exact ⟨hnul, rfl, hfind⟩
      · rintro ⟨-, rfl, -⟩
        rfl

/-- A real path without a round of links in it goes straight down. -/
theorem straight_of_realPath {p r : Path} (ha : p.isAbsolute = true) (he : t.Ends p)
    (h : t.realPath p = .ok r) :
    t.IsStraight r.names ∧ r.names = (t.chase (t.items.length + 1) [] p.names []).1 := by
  obtain ⟨-, rfl, -⟩ := (realPath_of_absolute ha).1 h
  rw [Ends, ha, if_pos rfl] at he
  obtain ⟨hs, hd⟩ := chase_straight (isStraight_nil t) (by simp) (Prod.ext rfl he)
  rw [Path.ofNames, Path.climb_of_not_mem hd]
  exact ⟨hs, rfl⟩

/-! ## §2 Directories -/

/-- A walk to a directory can go on from there, with the links that are left. -/
theorem walk_append_of_directory {follow : Bool} {links : Nat} {names more : List Text}
    {here place : Place} {modified : Int} (hmore : more ≠ [])
    (h : t.walk true links names here = .ok (place, some ⟨.directory, modified⟩)) :
    ∃ left, t.walk follow links (names ++ more) here = t.walk follow left more place := by
  have hempty : ∀ rest : List Text, (rest ++ more).isEmpty = false := by
    intro rest
    simp [hmore]
  fun_induction walk t true links names here with
  | case1 links here =>
    obtain ⟨rfl, -⟩ := Prod.mk.inj (Except.ok.inj h)
    exact ⟨links, rfl⟩
  | case2 links rest here ih =>
    obtain ⟨left, hleft⟩ := ih h
    exact ⟨left, by rw [List.cons_append, walk, if_pos rfl, hleft]⟩
  | case3 links rest here hd ih =>
    obtain ⟨left, hleft⟩ := ih h
    exact ⟨left, by rw [List.cons_append, walk, if_neg hd, if_pos rfl, hleft]⟩
  | case5 links name rest here hdots hdot hf hitem hr => cases h
  | case7 links name rest here hdots hdot hf m hitem ih =>
    obtain ⟨left, hleft⟩ := ih h
    refine ⟨left, ?_⟩
    rw [List.cons_append, walk_cons hdots hdot (Nat.not_lt.1 hf), hitem]
    exact hleft
  | case8 links name rest here hdots hdot hf c m hitem hr => cases h
  | case10 links name rest here hdots hdot hf target m hitem hr => simp at hr
  | case12 name rest here hdots hdot hf target m hitem hr links ih =>
    obtain ⟨left, hleft⟩ := ih h
    refine ⟨left, ?_⟩
    rw [List.cons_append, walk_cons hdots hdot (Nat.not_lt.1 hf), hitem]
    dsimp only
    rw [hempty rest, ← hleft, List.append_assoc]
    rfl
  | _ => simp at h

theorem isDirectory_eq_true_iff {p : Path} :
    t.isDirectory p = .ok true ↔
      ∃ place modified, t.locate true p = .ok (place, some ⟨.directory, modified⟩) := by
  unfold isDirectory test find
  match t.locate true p with
  | .error e => cases e <;> simp [Refusal.meansAbsent]
  | .ok (place, none) => simp [Refusal.meansAbsent]
  | .ok (place, some ⟨.file c, m⟩) => simp
  | .ok (place, some ⟨.directory, m⟩) => simp
  | .ok (place, some ⟨.link target, m⟩) => simp

theorem isFile_eq_true_iff {p : Path} :
    t.isFile p = .ok true ↔
      ∃ place content modified, t.locate true p = .ok (place, some ⟨.file content, modified⟩) := by
  unfold isFile test find
  match t.locate true p with
  | .error e => cases e <;> simp [Refusal.meansAbsent]
  | .ok (place, none) => simp [Refusal.meansAbsent]
  | .ok (place, some ⟨.file c, m⟩) => simp
  | .ok (place, some ⟨.directory, m⟩) => simp
  | .ok (place, some ⟨.link target, m⟩) => simp

theorem isDirectory_of_isFile {p : Path} (h : t.isFile p = .ok true) : t.isDirectory p = .ok false := by
  obtain ⟨place, content, modified, hlocate⟩ := isFile_eq_true_iff.1 h
  simp [isDirectory, test, find, hlocate]

/-- What a resolved path to a directory leads to with one more name behind it. -/
theorem locate_child {p : Path} (hp : p.IsResolved) {dir : Place} {modified : Int}
    (hdir : t.locate true p = .ok (dir, some ⟨.directory, modified⟩)) {name : Text}
    (hn : Path.IsPlain name) :
    (∃ e, refused? (Path.ofNames (p.names ++ [name])) = some e ∧
        t.locate true (p.child name) = .error e) ∨
      ∃ left, t.locate true (p.child name) = t.walk true left [name] dir := by
  have hchild : (p.child name).IsResolved := hp.child hn
  rw [locate_resolved t true hchild, hp.child_eq hn]
  cases hr : refused? (Path.ofNames (p.names ++ [name])) with
  | some e => exact .inl ⟨e, rfl, rfl⟩
  | none =>
    refine .inr ?_
    rw [locate_resolved t true hp] at hdir
    split at hdir
    · cases hdir
    · exact walk_append_of_directory (by simp) hdir

/-- A name behind a path that is taken can only make it too long. -/
theorem eq_nameTooLong_of_refused? {names : List Text} {name : Text} {e : Refusal}
    (h : refused? (Path.ofNames names) = none) (hn : '\x00' ∉ name)
    (he : refused? (Path.ofNames (names ++ [name])) = some e) : e = .nameTooLong := by
  have hnul : '\x00' ∉ (Path.ofNames (names ++ [name])).text := by
    rw [Path.nul_mem_text_iff]
    rintro ⟨m, hm, hmem⟩
    rcases List.mem_append.1 hm with hm | hm
    · have hin : '\x00' ∈ (Path.ofNames names).text := Path.nul_mem_text_iff.2 ⟨m, hm, hmem⟩
      simp [refused?, hin] at h
    · exact hn (List.mem_singleton.1 hm ▸ hmem)
  unfold refused? at he
  rw [if_neg (by simpa using hnul)] at he
  split at he
  · exact (Option.some.inj he).symm
  · cases he

/-- The same where no link stands. -/
theorem locate_child_of_not_link {p : Path} (hp : p.IsResolved) {dir : Place} {modified : Int}
    (hdir : t.locate true p = .ok (dir, some ⟨.directory, modified⟩)) {name : Text}
    (hn : Path.IsPlain name) (hf : Fits name) (hnul : '\x00' ∉ name)
    (hlink : ∀ target, t.entryAt (dir ++ [name]) ≠ some (.link target)) :
    t.locate true (p.child name) = .error .nameTooLong ∨
      t.locate true (p.child name) = .ok (dir ++ [name], t.get? (dir ++ [name])) := by
  rcases locate_child hp hdir hn with ⟨e, hr, he⟩ | ⟨left, hleft⟩
  · have htaken : refused? (Path.ofNames p.names) = none := by
      rw [locate_resolved t true hp] at hdir
      rw [← hp.eq_ofNames]
      split at hdir
      · cases hdir
      · next h => exact h
    exact .inl (eq_nameTooLong_of_refused? htaken hnul hr ▸ he)
  · exact .inr (by rw [hleft, walk_last hn.notDots hn.notDot hf hlink])

end FileTree

/-! ## §3 Handlers -/

namespace Server

variable {α : Type}

theorem run_step (f : Step α) (handle : Error → Option Response) (s : ServerState) :
    (step f handle).run.run s =
      match f.run.run s.session with
      | (.ok a, session) => (.ok a, { s with session })
      | (.error e, session) => (.error ((handle e).getD (.failed e)), { s with session }) := by
  rw [step, run_bind]
  have hlift : (ExceptT.lift (onSession f.run) : Handler (Except Error α)).run.run s =
      (.ok (f.run.run s.session).1, { s with session := (f.run.run s.session).2 }) := rfl
  rw [hlift]
  dsimp only
  rcases f.run.run s.session with ⟨e | a, session⟩ <;> rfl

theorem run_sure (f : Action α) (s : ServerState) :
    (sure f).run.run s =
      match f.run.run s.session.host with
      | (.ok a, host) => (.ok a, { s with session := { s.session with host } })
      | (.error e, host) => (.error (.failed e), { s with session := { s.session with host } }) := by
  rw [sure, run_step, Session.run_act]
  rcases f.run.run s.session.host with ⟨e | a, host⟩ <;> rfl

theorem run_sure_look (f : FileTree → Except Fault α) (s : ServerState) :
    (sure (Host.look f)).run.run s =
      match f s.session.host.files with
      | .ok a => (.ok a, s)
      | .error e => (.error (.failed (.fault e)), s) := by
  rw [run_sure, Host.run_look]
  cases f s.session.host.files <;> rfl

theorem run_projectFile (root : Path) (wanted : Text) (s : ServerState) :
    (projectFile root wanted).run.run s =
      match Host.realPath s.session.host.files (root.child wanted) with
      | .error e => (.error (.failed e), s)
      | .ok p =>
        if isInside root p then (.ok p, s)
        else (.error (.refusal 403 ("Path outside project root: " ++ wanted)), s) := by
  rw [projectFile, run_bind, run_sure, run_bind, run_get]
  dsimp only
  cases Host.realPath s.session.host.files (root.child wanted) with
  | error e => rfl
  | ok p =>
    dsimp only
    rw [run_pure]
    dsimp only
    split <;> rfl

/-- The answer with the file at a path. -/
def serveAt (plugin : Plugin) (requested : Text) (p : Path) : Handler Response := do
  if ← sure (Host.look (·.isFile p)) then
    if Reload.isScript p.name then serveScript plugin p
    else return .file (MediaType.ofName p.name) (← sure (Host.readBytes p))
  else throw (.refusal 404 ("Not found: /" ++ requested))

/-- A request is answered with the file at its path, or with the index behind it. -/
theorem run_serveFile (plugin : Plugin) (requested : Text) (s : ServerState) :
    (serveFile plugin requested).run.run s =
      match Host.realPath s.session.host.files
          (plugin.projectRoot.child (wantedFile requested)) with
      | .error e => (.error (.failed e), s)
      | .ok p =>
        if isInside plugin.projectRoot p then
          match s.session.host.files.isDirectory p with
          | .error e => (.error (.failed (.fault e)), s)
          | .ok d => (serveAt plugin requested (if d then p.child indexName else p)).run.run s
        else
          (.error (.refusal 403 ("Path outside project root: " ++ wantedFile requested)), s) := by
  rw [serveFile, run_bind, run_projectFile]
  cases Host.realPath s.session.host.files (plugin.projectRoot.child (wantedFile requested)) with
  | error e => rfl
  | ok p =>
    dsimp only
    by_cases hin : isInside plugin.projectRoot p = true
    · rw [if_pos hin, if_pos hin]
      dsimp only
      rw [run_bind, run_sure_look]
      cases s.session.host.files.isDirectory p with
      | error e => rfl
      | ok d => cases d <;> rfl
    · rw [if_neg hin, if_neg hin]

/-! ## §4 Files -/

/-- The answer of a handler, early or not. -/
def answer : Except Response Response → Response
  | .ok r => r
  | .error r => r

/-- What can be made of the bytes of the file at a path. -/
inductive MadeOf (plugin : Plugin) (s : Session) (p : Path) (content : Bytes) : Response → Prop where
  | file : MadeOf plugin s p content (.file (MediaType.ofName p.name) content)
  | script {code : Text} (hcode : Utf8.decode? content = some code) :
    MadeOf plugin s p content (.script (Text.unifyBreaks code))
  | transformed {code : Text} {result : Transform.Result} {s' : Session}
    (hcode : Utf8.decode? content = some code)
    (hrun : (plugin.transform (Text.unifyBreaks code) p.text).run.run s =
      (.ok (some result), s')) :
    MadeOf plugin s p content (.script result.code)

variable {plugin : Plugin} {requested : Text} {p : Path} {s : ServerState}

theorem status_transformFailure (e : Error) :
    ((transformFailure e).getD (.failed e)).status = 500 := by
  cases e <;> rfl

theorem madeOf_serveScript {content : Bytes} (hread : s.session.host.files.read p = .ok content)
    (h : (answer ((serveScript plugin p).run.run s).1).status = 200) :
    MadeOf plugin s.session p content (answer ((serveScript plugin p).run.run s).1) := by
  rw [serveScript, run_bind, run_sure, Host.run_readText, hread] at h ⊢
  dsimp only at h ⊢
  cases hcode : Utf8.decode? content with
  | none => simp [hcode, answer, Response.failed, Response.plain] at h
  | some code =>
    rw [hcode] at h
    dsimp only at h ⊢
    rw [run_bind, run_step] at h ⊢
    rcases hrun : (plugin.transform (Text.unifyBreaks code) p.text).run.run s.session with
      ⟨e | result, s'⟩
    · simp [hrun, answer, status_transformFailure] at h
    · cases result with
      | none => exact .script hcode
      | some result => exact .transformed hcode hrun

/-- A file that is sent is one that the path leads to. -/
theorem madeOf_serveAt (h : (answer ((serveAt plugin requested p).run.run s).1).status = 200) :
    ∃ place content modified,
      s.session.host.files.locate true p = .ok (place, some ⟨.file content, modified⟩) ∧
      MadeOf plugin s.session p content (answer ((serveAt plugin requested p).run.run s).1) := by
  rw [serveAt, run_bind, run_sure_look] at h ⊢
  match hfile : s.session.host.files.isFile p with
  | .error e => simp [hfile, answer, Response.failed, Response.plain] at h
  | .ok false =>
    rw [hfile] at h
    have h404 : (404 : Nat) = 200 := h
    simp at h404
  | .ok true =>
    obtain ⟨place, content, modified, hl⟩ := FileTree.isFile_eq_true_iff.1 hfile
    have hread : s.session.host.files.read p = .ok content :=
      FileTree.read_eq_ok_iff.2 ⟨place, modified, hl⟩
    refine ⟨place, content, modified, hl, ?_⟩
    rw [hfile] at h
    dsimp only at h ⊢
    rw [if_pos rfl] at h ⊢
    split at h
    · next hscript =>
      rw [if_pos hscript]
      exact madeOf_serveScript hread h
    · next hscript =>
      rw [if_neg hscript, run_bind, Host.readBytes, run_sure_look, hread]
      exact .file

/-! ## §5 Containment -/

theorem isInside_iff {root p : Path} :
    isInside root p = true ↔ p.slashes = root.slashes ∧ root.names <+: p.names := by
  simp [isInside]

variable {t : FileTree} {root : Path}

/-- A path seen from a resolved root begins at the top, and its names were read. -/
theorem child_asked (hroot : root.IsResolved) (wanted : Text) :
    (root.child wanted).isAbsolute = true ∧
      ∀ n ∈ (root.child wanted).names, FileTree.IsWritten n := by
  by_cases ha : (Path.ofText wanted).isAbsolute = true
  · have hchild : root.child wanted = Path.ofText wanted := if_pos ha
    rw [hchild]
    exact ⟨ha, fun n hn => Path.mem_names_ofText hn⟩
  · rw [Path.child, Path.join_of_not_absolute (by simpa using ha)]
    refine ⟨by simp [Path.isAbsolute, hroot.slashes], fun n hn => ?_⟩
    rcases List.mem_append.1 hn with hn | hn
    · exact .of_plain (hroot.plain n hn)
    · exact Path.mem_names_ofText hn

theorem isResolved_of_child (hroot : root.IsResolved) {wanted : Text}
    (h : t.realPath (root.child wanted) = .ok p) : p.IsResolved := by
  obtain ⟨habs, hwritten⟩ := child_asked hroot wanted
  exact FileTree.isResolved_of_realPath (by simp [habs]) hwritten h

theorem isPlain_indexName : Path.IsPlain indexName := by
  constructor <;> decide

/-- The index behind the path to a directory, where no link stands in its place. -/
theorem locate_index (hp : p.IsResolved) {dir : Place} {modified : Int}
    (hdir : t.locate true p = .ok (dir, some ⟨.directory, modified⟩))
    (hlink : ∀ target, t.entryAt (dir ++ [indexName]) ≠ some (.link target)) :
    t.locate true (p.child indexName) = .error .nameTooLong ∨
      t.locate true (p.child indexName) =
        .ok (dir ++ [indexName], t.get? (dir ++ [indexName])) := by
  have hfits : FileTree.Fits indexName := by unfold FileTree.Fits; decide
  exact FileTree.locate_child_of_not_link hp hdir isPlain_indexName hfits (by decide) hlink

/-- Where the question whether a path is in the project does not settle where its file lies. -/
inductive LeavesOpen (t : FileTree) (asked p : Path) : Prop where
  /-- Links on the way lead round to themselves. -/
  | round (h : ¬ t.Ends asked)
  /-- The path leads to a directory whose index is a link. -/
  | index {dir : Place} {modified : Int} {target : Text}
    (hdir : t.locate true p = .ok (dir, some ⟨.directory, modified⟩))
    (hlink : t.entryAt (dir ++ [indexName]) = some (.link target))

/-- Where links come to an end, a real path leads to the place of its names if to any. -/
theorem place_of_ends {path : Path} (ha : path.isAbsolute = true) (he : t.Ends path)
    (hp : p.IsResolved) (h : t.realPath path = .ok p) {place : Place} {found : Option Item}
    (hl : t.locate true p = .ok (place, found)) : place = p.names :=
  FileTree.locate_straight hp (FileTree.straight_of_realPath ha he h).1 hl

/-- A file lies in the project if the path of the request settles it. -/
theorem names_prefix_place (hroot : root.IsResolved) {wanted : Text}
    (hreal : t.realPath (root.child wanted) = .ok p) (hin : isInside root p = true) {q : Path}
    (hq : (t.isDirectory p = .ok true ∧ q = p.child indexName) ∨ q = p) {place : Place}
    {content : Bytes} {modified : Int}
    (hl : t.locate true q = .ok (place, some ⟨.file content, modified⟩)) :
    root.names <+: place ∨ LeavesOpen t (root.child wanted) p := by
  have hp := isResolved_of_child hroot hreal
  have habs := (child_asked hroot wanted).1
  have hbelow : root.names <+: p.names := (isInside_iff.1 hin).2
  by_cases he : t.Ends (root.child wanted)
  · rcases hq with ⟨hdir, rfl⟩ | rfl
    · obtain ⟨dir, m, hdir⟩ := FileTree.isDirectory_eq_true_iff.1 hdir
      by_cases hlink : ∃ target, t.entryAt (dir ++ [indexName]) = some (.link target)
      · obtain ⟨target, hlink⟩ := hlink
        exact .inr (.index hdir hlink)
      · -- the index stands where its name says
        rcases locate_index hp hdir fun target h => hlink ⟨target, h⟩ with herror | hindex
        · rw [herror] at hl
          cases hl
        · rw [hindex] at hl
          obtain ⟨rfl, -⟩ := Prod.mk.inj (Except.ok.inj hl)
          rw [place_of_ends habs he hp hreal hdir]
          exact .inl (hbelow.trans (List.prefix_append ..))
    · rw [place_of_ends habs he hp hreal hl]
      exact .inl hbelow
  · exact .inr (.round he)

/-! ## §6 Requests -/

/-- What a request without the slashes in front asks for. -/
def asked (requested : Text) : Text := requested.dropWhile (· = '/')

theorem wantedFile_of_asked (h : asked requested ≠ []) : wantedFile requested = asked requested := by
  unfold wantedFile
  split
  · next hnil => exact absurd hnil h
  · rfl

theorem wantedFile_of_root (h : asked requested = []) : wantedFile requested = indexName := by
  unfold wantedFile
  rw [show requested.dropWhile (fun x => decide (x = '/')) = [] from h]

/-- What answers a request. -/
def handler (plugin : Plugin) (r : Request) : Handler Response :=
  if plugin.servesArtifacts && isArtifact r.path then serveArtifact plugin r.path
  else serve plugin r

/-- A request is answered with what its handler comes to, early or not. -/
theorem run_respond_handler (plugin : Plugin) (r : Request) (s : ServerState) :
    (respond plugin r).run s =
      (answer ((handler plugin r).run.run s).1, ((handler plugin r).run.run s).2) := by
  have hrun : (respond plugin r).run s =
      match (handler plugin r).run.run s with
      | (.ok response, s') => (response, s')
      | (.error response, s') => (response, s') := by
    have hif : (if (plugin.servesArtifacts && isArtifact r.path) = true then
        serveArtifact plugin r.path else serve plugin r) = handler plugin r := rfl
    unfold respond
    dsimp only
    rw [hif]
    simp only [StateT.run, bind, StateT.bind]
    rcases ((handler plugin r).run s : Except Response Response × ServerState) with
      ⟨e | a, s'⟩ <;> rfl
  rw [hrun]
  rcases (handler plugin r).run.run s with ⟨e | a, s'⟩ <;> rfl

/-- A request for a file of the project is answered by it, whatever the plugin is. -/
theorem run_respond (r : Request) (hget : r.method = "GET".toList)
    (hroute : route? r.path = some (.file requested))
    (hartifact : (plugin.servesArtifacts && isArtifact r.path) = false) (s : ServerState) :
    (respond plugin r).run s =
      (answer ((serveFile plugin requested).run.run s).1,
        ((serveFile plugin requested).run.run s).2) := by
  have hserve : handler plugin r = serveFile plugin requested := by
    have hpost : ¬ (r.method = "POST".toList ∧ Reload.withoutFinalBreak r.path = noticePath) := by
      rw [hget]
      exact fun h => absurd h.1 (by decide)
    rw [handler, hartifact, serve, hroute]
    dsimp only
    rw [if_neg (by simp), if_neg hpost, hget, if_pos (by rfl)]
    rfl
  rw [run_respond_handler, hserve]

/-! ## §7 The index of a directory -/

/-- The real path of a directory's index, if that is no link: the name behind the real path. -/
theorem realPath_index {path : Path} (ha : path.isAbsolute = true)
    (hp : p.IsResolved) (hreal : t.realPath path = .ok p) {dir : Place} {modified : Int}
    (hdir : t.locate true p = .ok (dir, some ⟨.directory, modified⟩))
    (hlink : ∀ target, t.entryAt (dir ++ [indexName]) ≠ some (.link target)) :
    t.realPath ⟨path.slashes, path.names ++ [indexName]⟩ = .ok (p.child indexName) := by
  obtain ⟨hnul, hnames, -⟩ := (FileTree.realPath_of_absolute ha).1 hreal
  have ha' : (⟨path.slashes, path.names ++ [indexName]⟩ : Path).isAbsolute = true := ha
  rw [FileTree.realPath_of_absolute ha']
  have hchase : (t.chase (t.items.length + 1) [] (path.names ++ [indexName]) []).1 =
      (t.chase (t.items.length + 1) [] path.names []).1 ++ [indexName] := by
    rw [FileTree.chase_append]
    cases hc : t.chase (t.items.length + 1) [] path.names [] with
    | mk place flag =>
      cases flag with
      | false => rfl
      | true =>
        have he : t.Ends path := by rw [FileTree.Ends, ha, if_pos rfl, hc]
        have hplace : place = dir := by
          rw [place_of_ends ha he hp hreal hdir, (FileTree.straight_of_realPath ha he hreal).2, hc]
        dsimp only
        rw [FileTree.chase, if_neg isPlain_indexName.notDots, hplace]
        split
        · next target m hitem => exact absurd (FileTree.entryAt_of_get? hitem) (hlink target)
        · rw [FileTree.chase]
  refine ⟨?_, ?_, ?_⟩
  · rw [Path.nul_mem_text_iff] at hnul ⊢
    rintro ⟨n, hn, hmem⟩
    rcases List.mem_append.1 hn with hn | hn
    · exact hnul ⟨n, hn, hmem⟩
    · rw [List.mem_singleton.1 hn] at hmem
      exact absurd hmem (by decide)
  · rw [hchase, Path.climb_append_singleton, if_neg isPlain_indexName.notDots,
      hp.child_eq isPlain_indexName, hnames]
    rfl
  · -- behind the directory no link has to be followed
    unfold FileTree.find
    rcases locate_index hp hdir hlink with herror | hindex
    · rw [herror]
      simp
    · rw [hindex]
      cases t.get? (dir ++ [indexName]) <;> simp

/-- A request for the index of what a request asks for. -/
def indexOf (requested : Text) : Text := requested ++ '/' :: indexName

theorem asked_indexOf (requested : Text) :
    asked (indexOf requested) =
      if asked requested = [] then indexName else asked requested ++ '/' :: indexName := by
  unfold asked indexOf
  rw [List.dropWhile_append]
  by_cases h : requested.dropWhile (fun c => decide (c = '/')) = []
  · rw [if_pos (by simp [h]), if_pos h]
    decide
  · rw [if_neg (by simpa using h), if_neg h]

/-- The index lies one name below what is asked for, be it the root itself. -/
theorem child_wantedFile_indexOf (root : Path) (requested : Text) :
    root.child (wantedFile (indexOf requested)) =
      ⟨(root.child (asked requested)).slashes,
        (root.child (asked requested)).names ++ [indexName]⟩ := by
  have hsplit := asked_indexOf requested
  by_cases h : asked requested = []
  · rw [if_pos h] at hsplit
    have hroot : root.child [] = root := by
      show (⟨root.slashes, root.names ++ []⟩ : Path) = root
      rw [List.append_nil]
    rw [wantedFile_of_asked (by rw [hsplit]; decide), hsplit, h, hroot,
      Path.child_of_plain root isPlain_indexName]
  · rw [if_neg h] at hsplit
    have hhead : ∀ rest, asked requested ≠ '/' :: rest := by
      intro rest hrest
      have hnot := List.head?_dropWhile_not (fun c => decide (c = '/')) requested
      rw [show requested.dropWhile (fun c => decide (c = '/')) = '/' :: rest from hrest] at hnot
      simp at hnot
    rw [wantedFile_of_asked (by rw [hsplit]; simp), hsplit]
    cases hc : asked requested with
    | nil => exact absurd hc h
    | cons c rest =>
      have hslash : c ≠ '/' := fun hc' => hhead rest (by rw [hc, hc'])
      have habs : ∀ tail, (Path.ofText (c :: tail)).isAbsolute = false := by
        intro tail
        rw [← Bool.not_eq_true, Path.isAbsolute_ofText_iff]
        simp [Ne.symm hslash]
      have hnames : (Path.ofText (c :: rest ++ '/' :: indexName)).names =
          (Path.ofText (c :: rest)).names ++ [indexName] := by
        rw [Path.ofText, Path.ofText, Text.splitOn_append, List.filter_append,
          Text.splitOn_of_not_mem isPlain_indexName.noSlash, List.filter_cons,
          if_pos isPlain_indexName.isName]
        rfl
      have hlong : (Path.ofText (c :: rest ++ '/' :: indexName)).isAbsolute = false :=
        habs (rest ++ '/' :: indexName)
      rw [Path.child, Path.child, Path.join_of_not_absolute (habs rest),
        Path.join_of_not_absolute hlong, hnames, List.append_assoc]

/-- A file that is no script is sent as it is. -/
theorem run_serveAt_file {content : Bytes} (hread : s.session.host.files.read p = .ok content)
    (hscript : Reload.isScript p.name = false) :
    (serveAt plugin requested p).run.run s = (.ok (.file (MediaType.ofName p.name) content), s) := by
  rw [serveAt, run_bind, run_sure_look, FileTree.isFile_of_read hread]
  dsimp only
  rw [if_pos rfl, hscript, if_neg (by simp), run_bind, Host.readBytes, run_sure_look, hread]
  rfl

theorem run_serveAt_script (hfile : s.session.host.files.isFile p = .ok true)
    (hscript : Reload.isScript p.name = true) :
    (serveAt plugin requested p).run.run s = (serveScript plugin p).run.run s := by
  rw [serveAt, run_bind, run_sure_look, hfile]
  dsimp only
  rw [if_pos rfl, if_pos hscript]

/-- A directory is answered with the file that its index leads to, wherever that lies. -/
theorem run_serveFile_directory (hroot : plugin.projectRoot.IsResolved)
    (hasked : asked requested ≠ [])
    (hreal : s.session.host.files.realPath (plugin.projectRoot.child (asked requested)) = .ok p)
    (hin : isInside plugin.projectRoot p = true)
    (hdir : s.session.host.files.isDirectory p = .ok true) {content : Bytes}
    (hread : s.session.host.files.read (p.child indexName) = .ok content) :
    (serveFile plugin requested).run.run s =
      (.ok (.file (MediaType.ofName indexName) content), s) := by
  have hp := isResolved_of_child hroot hreal
  have hname : (p.child indexName).name = indexName := by
    rw [hp.child_eq isPlain_indexName]
    simp [Path.name, Path.ofNames]
  rw [run_serveFile, wantedFile_of_asked hasked, Host.realPath_eq_ok_iff.2 hreal]
  dsimp only
  rw [if_pos hin, hdir]
  dsimp only
  rw [if_pos rfl, run_serveAt_file hread (by rw [hname]; decide), hname]

/-- What is asked for makes no difference where a file is found, or nothing can be. -/
theorem run_serveAt_eq {requested' : Text}
    (h : s.session.host.files.isFile p ≠ .ok false) :
    (serveAt plugin requested' p).run.run s = (serveAt plugin requested p).run.run s := by
  rw [serveAt, serveAt, run_bind, run_bind, run_sure_look]
  match hfile : s.session.host.files.isFile p with
  | .error e => rfl
  | .ok true => rfl
  | .ok false => exact absurd hfile h

theorem run_serveAt_missing (h : s.session.host.files.isFile p = .ok false) :
    (serveAt plugin requested p).run.run s =
      (.error (.refusal 404 ("Not found: /" ++ requested)), s) := by
  rw [serveAt, run_bind, run_sure_look, h]
  rfl

/-- A request that succeeds has gone on to the file at a path. -/
theorem path_of_status (h : (answer ((serveFile plugin requested).run.run s).1).status = 200) :
    ∃ p q, s.session.host.files.realPath
        (plugin.projectRoot.child (wantedFile requested)) = .ok p ∧
      isInside plugin.projectRoot p = true ∧
      (s.session.host.files.isDirectory p = .ok true ∧ q = p.child indexName ∨ q = p) ∧
      (serveFile plugin requested).run.run s = (serveAt plugin requested q).run.run s := by
  rw [run_serveFile] at h ⊢
  cases hreal : Host.realPath s.session.host.files
      (plugin.projectRoot.child (wantedFile requested)) with
  | error e =>
    rw [hreal] at h
    have h500 : (500 : Nat) = 200 := h
    simp at h500
  | ok p =>
    rw [hreal] at h
    dsimp only at h ⊢
    by_cases hin : isInside plugin.projectRoot p = true
    · rw [if_pos hin] at h ⊢
      cases hdir : s.session.host.files.isDirectory p with
      | error e =>
        rw [hdir] at h
        have h500 : (500 : Nat) = 200 := h
        simp at h500
      | ok d =>
        refine ⟨p, if d then p.child indexName else p, Host.realPath_eq_ok_iff.1 hreal, hin, ?_, rfl⟩
        cases d with
        | true => exact .inl ⟨hdir, rfl⟩
        | false => exact .inr rfl
    · rw [if_neg hin] at h
      have h403 : (403 : Nat) = 200 := h
      simp at h403

theorem run_serveFile_of_not_directory
    (hreal : s.session.host.files.realPath
      (plugin.projectRoot.child (wantedFile requested)) = .ok p)
    (hin : isInside plugin.projectRoot p = true)
    (hdir : s.session.host.files.isDirectory p = .ok false ∨
      ∃ f, s.session.host.files.isDirectory p = .error f ∧
        s.session.host.files.isFile p = .error f) :
    (serveFile plugin requested).run.run s = (serveAt plugin requested p).run.run s := by
  rw [run_serveFile, Host.realPath_eq_ok_iff.2 hreal]
  dsimp only
  rw [if_pos hin]
  rcases hdir with hdir | ⟨f, hdir, hfile⟩
  · rw [hdir]
    rfl
  · rw [hdir, serveAt, run_bind, run_sure_look, hfile]

/-- A request for a directory and one for its index go on to the same path, if that is no link and
no directory. -/
theorem run_serveFile_index (hroot : plugin.projectRoot.IsResolved)
    (hreal : s.session.host.files.realPath (plugin.projectRoot.child (asked requested)) = .ok p)
    (hin : isInside plugin.projectRoot p = true) {dir : Place} {modified : Int}
    (hdir : s.session.host.files.locate true p = .ok (dir, some ⟨.directory, modified⟩))
    (hentry : FileTree.CanHold (s.session.host.files.entryAt (dir ++ [indexName])) = true) :
    (serveFile plugin requested).run.run s =
        (serveAt plugin requested (p.child indexName)).run.run s ∧
      (serveFile plugin (indexOf requested)).run.run s =
        (serveAt plugin (indexOf requested) (p.child indexName)).run.run s := by
  have hp := isResolved_of_child hroot hreal
  have hlink : ∀ target, s.session.host.files.entryAt (dir ++ [indexName]) ≠
      some (.link target) := by
    intro target h
    simp [h, FileTree.CanHold] at hentry
  have hindexReal := realPath_index (child_asked hroot (asked requested)).1 hp hreal hdir hlink
  rw [← child_wantedFile_indexOf] at hindexReal
  have hindexIn : isInside plugin.projectRoot (p.child indexName) = true := by
    rw [hp.child_eq isPlain_indexName, isInside_iff]
    exact ⟨hroot.slashes.symm, (isInside_iff.1 hin).2.trans (List.prefix_append ..)⟩
  have hnot : s.session.host.files.isDirectory (p.child indexName) = .ok false ∨
      ∃ f, s.session.host.files.isDirectory (p.child indexName) = .error f ∧
        s.session.host.files.isFile (p.child indexName) = .error f := by
    unfold FileTree.isDirectory FileTree.isFile FileTree.test FileTree.find
    rcases locate_index hp hdir hlink with herror | hindex
    · rw [herror]
      exact .inr ⟨_, rfl, rfl⟩
    · rw [hindex]
      cases hitem : s.session.host.files.get? (dir ++ [indexName]) with
      | none => exact .inl rfl
      | some item =>
        obtain ⟨entry, m⟩ := item
        cases entry with
        | directory => simp [FileTree.entryAt_of_get? hitem, FileTree.CanHold] at hentry
        | file c => exact .inl rfl
        | link target => exact absurd (FileTree.entryAt_of_get? hitem) (hlink target)
  refine ⟨?_, run_serveFile_of_not_directory hindexReal hindexIn hnot⟩
  by_cases hasked : asked requested = []
  · -- the root itself is asked for by the name of its index
    have hsame : wantedFile requested = wantedFile (indexOf requested) := by
      have hindex : asked (indexOf requested) = indexName := by
        rw [asked_indexOf, if_pos hasked]
      rw [wantedFile_of_root hasked, wantedFile_of_asked (by rw [hindex]; decide), hindex]
    rw [← hsame] at hindexReal
    exact run_serveFile_of_not_directory hindexReal hindexIn hnot
  · have hisDir : s.session.host.files.isDirectory p = .ok true :=
      FileTree.isDirectory_eq_true_iff.2 ⟨dir, modified, hdir⟩
    rw [run_serveFile, wantedFile_of_asked hasked, Host.realPath_eq_ok_iff.2 hreal]
    dsimp only
    rw [if_pos hin, hisDir]
    rfl

/-- A path that is no fixed one, less a line feed at its end, is that of a file, if it is of one line. -/
theorem route?_of_not_fixed {path : Text}
    (h : Reload.withoutFinalBreak path ∉ fixedRoutes.map Prod.fst) :
    route? path = (requestedFile? path).map .file := by
  rw [route?, List.lookup_eq_none_iff.2 fun fixed hfixed => ?_]
  exact bne_iff_ne.2 fun heq => h (heq ▸ List.mem_map_of_mem hfixed)

/-- No fixed path is that of a file. -/
theorem requestedFile?_of_route {path : Text} (hroute : route? path = some (.file requested)) :
    requestedFile? path = some requested := by
  unfold route? at hroute
  split at hroute
  · next route hfixed =>
    cases hroute
    obtain ⟨before, after, hroutes, -⟩ := List.lookup_eq_some_iff.1 hfixed
    have hmem : Route.file requested ∈ fixedRoutes.map Prod.snd := by simp [hroutes]
    simp [fixedRoutes] at hmem
  · obtain ⟨file, hfile, heq⟩ := Option.map_eq_some_iff.1 hroute
    cases heq
    exact hfile

theorem not_mem_of_route {path : Text} (hroute : route? path = some (.file requested)) :
    '\n' ∉ requested := by
  have hfile := requestedFile?_of_route hroute
  unfold requestedFile? at hfile
  split at hfile
  · dsimp only at hfile
    split at hfile
    · simp at hfile
    · next hbreak =>
      cases hfile
      simpa using hbreak
  · simp at hfile

/-- The path of an index is that of a file, and of no artifact. -/
theorem route?_indexOf (hbreak : '\n' ∉ requested) :
    route? ('/' :: indexOf requested) = some (.file (indexOf requested)) ∧
      isArtifact ('/' :: indexOf requested) = false := by
  have hend : ∀ s : Text, s ++ '/' :: indexName = s ++ "/index.htm" ++ ['l'] := by
    intro s
    rw [List.append_assoc]
    rfl
  have hlast : ∀ s t : Text, t.getLast? ≠ some 'l' → s ++ '/' :: indexName ≠ t := by
    rintro s _ h rfl
    rw [hend] at h
    simp at h
  have hwithout : ∀ s : Text,
      Reload.withoutFinalBreak (s ++ '/' :: indexName) = s ++ '/' :: indexName := by
    intro s
    rw [hend, Reload.withoutFinalBreak, List.reverse_append]
    rfl
  have hpath : '/' :: indexOf requested = ('/' :: requested) ++ '/' :: indexName := rfl
  constructor
  · have hrequested : requestedFile? ('/' :: indexOf requested) = some (indexOf requested) := by
      have hno : (indexOf requested).contains '\n' = false := by
        rw [← Bool.not_eq_true, List.contains_iff_mem, indexOf, List.mem_append, not_or]
        exact ⟨hbreak, by decide⟩
      show (let requested' := Reload.withoutFinalBreak (indexOf requested)
        if requested'.contains '\n' then none else some requested') = _
      dsimp only
      rw [show Reload.withoutFinalBreak (indexOf requested) = indexOf requested from
        hwithout requested, hno]
      rfl
    -- no fixed path ends like the index
    have hfixed : ∀ fixed ∈ fixedRoutes.map Prod.fst, fixed.getLast? ≠ some 'l' := by decide
    rw [route?_of_not_fixed, hrequested]
    · rfl
    · rw [hpath, hwithout]
      exact fun hmem => hlast _ _ (hfixed _ hmem) rfl
  · have hwasm : Text.endsWith ('/' :: indexOf requested) VirtualId.wasmEnding = false := by
      rw [← Bool.not_eq_true, Text.endsWith_iff, hpath]
      rintro ⟨tail, htail⟩
      refine hlast ('/' :: requested) (tail ++ VirtualId.wasmEnding) ?_ htail.symm
      rw [List.getLast?_append, show VirtualId.wasmEnding.getLast? = some 'm' by decide]
      simp
    rw [isArtifact, hwasm, Bool.and_false]

/-! ## §8 Responses -/

/-- The files of a server. -/
abbrev files (s : ServerState) : FileTree := s.session.host.files

/-- What a request for a file of the project is answered with. A response of status 200 is made of a
file, which lies in the project unless the path of the request leaves that open; a directory is
answered like its index if that is a file, and if it is missing neither is found; and behind a
directory the file is sent that its index leads to, wherever that lies. -/
theorem respond_file {tree : FileTree} (hhere : ∀ n ∈ tree.here, Path.IsPlain n)
    {options : Options} {root mode : Text} {plugin : Plugin}
    (hcreate : Plugin.create tree options (Path.ofText root) mode = .ok plugin)
    {r : Request} {requested : Text} (hget : r.method = "GET".toList)
    (hroute : route? r.path = some (.file requested))
    (hartifact : (plugin.servesArtifacts && isArtifact r.path) = false) (s : ServerState) :
    (((respond plugin r).run s).1.status = 200 →
      ∃ p q place content modified,
        (files s).realPath (plugin.projectRoot.child (wantedFile requested)) = .ok p ∧
        isInside plugin.projectRoot p = true ∧
        ((files s).isDirectory p = .ok true ∧ q = p.child indexName ∨ q = p) ∧
        (files s).locate true q = .ok (place, some ⟨.file content, modified⟩) ∧
        MadeOf plugin s.session q content ((respond plugin r).run s).1 ∧
        (plugin.projectRoot.names <+: place ∨
          LeavesOpen (files s) (plugin.projectRoot.child (wantedFile requested)) p)) ∧
      ∀ p dir modified,
        (files s).realPath (plugin.projectRoot.child (asked requested)) = .ok p →
        isInside plugin.projectRoot p = true →
        (files s).locate true p = .ok (dir, some ⟨.directory, modified⟩) →
        (∀ content, (files s).entryAt (dir ++ [indexName]) = some (.file content) →
          (respond plugin { r with path := '/' :: indexOf requested }).run s =
            (respond plugin r).run s) ∧
        ((files s).entryAt (dir ++ [indexName]) = none →
          ((respond plugin { r with path := '/' :: indexOf requested }).run s).1.status =
            ((respond plugin r).run s).1.status) ∧
        (asked requested ≠ [] → ∀ content, (files s).read (p.child indexName) = .ok content →
          (respond plugin r).run s = (.file (MediaType.ofName indexName) content, s)) := by
  have hr : plugin.projectRoot.IsResolved := (Plugin.isResolved_of_create hhere hcreate).1
  have hindex := route?_indexOf (not_mem_of_route hroute)
  have hindexRun : (respond plugin { r with path := '/' :: indexOf requested }).run s =
      (answer ((serveFile plugin (indexOf requested)).run.run s).1,
        ((serveFile plugin (indexOf requested)).run.run s).2) :=
    run_respond { r with path := '/' :: indexOf requested } hget hindex.1
      (by rw [hindex.2, Bool.and_false]) s
  rw [run_respond r hget hroute hartifact s, hindexRun]
  dsimp only
  refine ⟨fun h200 => ?_, fun p dir modified hreal hin hdir => ⟨?_, ?_, ?_⟩⟩
  · obtain ⟨p, q, hreal, hin, hq, hrun⟩ := path_of_status h200
    rw [hrun] at h200 ⊢
    obtain ⟨place, content, modified, hl, hmade⟩ := madeOf_serveAt h200
    exact ⟨p, q, place, content, modified, hreal, hin, hq, hl, hmade,
      names_prefix_place hr hreal hin hq hl⟩
  · intro content hfile
    obtain ⟨hat, hat'⟩ := run_serveFile_index hr hreal hin hdir (by simp [hfile, FileTree.CanHold])
    have hfound : (files s).isFile (p.child indexName) ≠ .ok false := by
      unfold FileTree.isFile FileTree.test FileTree.find
      rcases locate_index (isResolved_of_child hr hreal) hdir (by simp [hfile]) with h | h
      · rw [h]
        simp [FileTree.Refusal.meansAbsent]
      · obtain ⟨m, hitem⟩ := FileTree.entryAt_eq_some hfile
        rw [h, hitem]
        simp
    rw [hat, hat', run_serveAt_eq hfound]
  · intro hnone
    obtain ⟨hat, hat'⟩ := run_serveFile_index hr hreal hin hdir (by simp [hnone, FileTree.CanHold])
    rw [hat, hat']
    by_cases hmissing : (files s).isFile (p.child indexName) = .ok false
    · rw [run_serveAt_missing hmissing, run_serveAt_missing hmissing]
      rfl
    · rw [run_serveAt_eq hmissing]
  · intro hasked content hread
    have hisDir := FileTree.isDirectory_eq_true_iff.2 ⟨dir, modified, hdir⟩
    rw [run_serveFile_directory hr hasked hreal hin hisDir hread]
    rfl

/-- A server for a tree. -/
def serverOf (tree : FileTree) : ServerState :=
  { session := { host := { files := tree, toolchain := { place := [] } } } }

/-- The plugin of a server for the project at `/p`. -/
def projectPlugin : Plugin :=
  { options := {}
    projectRoot := Path.ofNames ["p".toList]
    buildRoot := Path.ofNames ["p".toList, ".use-golang".toList]
    mode := .serve }

/-- A project with a directory that has an index. -/
def indexedTree : FileTree :=
  { items := [
      (["p".toList], ⟨.directory, 0⟩),
      (["p".toList, "d".toList], ⟨.directory, 0⟩),
      (["p".toList, "d".toList, "index.html".toList], ⟨.file [115], 0⟩)] }

theorem respond_file_indexed :
    (∃ place content modified,
      (files (serverOf indexedTree)).locate true (Path.ofText "/p/d/index.html") =
        .ok (place, some ⟨.file content, modified⟩) ∧
      MadeOf projectPlugin (serverOf indexedTree).session (Path.ofText "/p/d/index.html") content
        ((respond projectPlugin { path := "/d" }).run (serverOf indexedTree)).1) ∧
    (respond projectPlugin { path := "/d/index.html" }).run (serverOf indexedTree) =
      (respond projectPlugin { path := "/d" }).run (serverOf indexedTree) := by
  have hcreate : Plugin.create indexedTree {} (Path.ofText "/p") "serve" = .ok projectPlugin :=
    Plugin.create_eq_ok_iff.2 ⟨by cbv, by cbv, rfl, rfl⟩
  have hroute : route? "/d" = some (.file "d") := by rfl
  have hartifact : (projectPlugin.servesArtifacts && isArtifact "/d") = false := by decide
  have hreal : indexedTree.realPath (projectPlugin.projectRoot.child (asked "d")) =
      .ok (Path.ofText "/p/d") := by cbv
  have hin : isInside projectPlugin.projectRoot (Path.ofText "/p/d") = true := by decide
  have hdir : indexedTree.locate true (Path.ofText "/p/d") =
      .ok (["p".toList, "d".toList], some ⟨.directory, 0⟩) := by cbv
  have hread : indexedTree.read ((Path.ofText "/p/d").child indexName) = .ok [115] := by cbv
  have hentry : indexedTree.entryAt (["p".toList, "d".toList] ++ [indexName]) =
      some (.file [115]) := by cbv
  obtain ⟨hsent, hindex⟩ := respond_file (by simp [indexedTree]) hcreate
    (r := { path := "/d" }) rfl hroute hartifact (serverOf indexedTree)
  obtain ⟨hsame, -, hgiven⟩ := hindex _ _ _ hreal hin hdir
  have h200 : ((respond projectPlugin { path := "/d" }).run (serverOf indexedTree)).1.status =
      200 := by
    rw [hgiven (by decide) _ hread]
    rfl
  refine ⟨?_, hsame _ hentry⟩
  obtain ⟨p, q, place, content, modified, hp, -, hq, hl, hmade, -⟩ := hsent h200
  obtain rfl : Path.ofText "/p/d" = p := Except.ok.inj (hreal.symm.trans hp)
  obtain ⟨-, rfl⟩ | rfl := hq
  · exact ⟨place, content, modified, hl, hmade⟩
  · rw [show (files (serverOf indexedTree)).locate true (Path.ofText "/p/d") = _ from hdir] at hl
    cases hl

/-! ## §9 Ways out -/

/-- A project at `/p` with two ways out of it: an index that is a link, and behind a link to itself a
link to follow. -/
def openTree : FileTree :=
  { items := [
      (["p".toList], ⟨.directory, 0⟩),
      (["p".toList, "d".toList], ⟨.directory, 0⟩),
      (["p".toList, "d".toList, "index.html".toList], ⟨.link "/s", 0⟩),
      (["p".toList, "l".toList], ⟨.link "l", 0⟩),
      (["p".toList, "x".toList], ⟨.link "/s", 0⟩),
      (["s".toList], ⟨.file [115], 0⟩)] }

theorem create_projectPlugin :
    Plugin.create openTree {} (Path.ofText "/p") "serve" = .ok projectPlugin :=
  Plugin.create_eq_ok_iff.2 ⟨by cbv, by cbv, rfl, rfl⟩

theorem isResolved_projectRoot : projectPlugin.projectRoot.IsResolved :=
  (Plugin.isResolved_of_create (by simp [openTree]) create_projectPlugin).1

/-- The index of a directory is sent from outside of the project, where a request for the index
itself is refused; and so is a file behind a link to itself. -/
theorem respond_leads_out :
    Plugin.create openTree {} (Path.ofText "/p") "serve" = .ok projectPlugin ∧
      openTree.locate true (Path.ofText "/p/d/index.html") =
        .ok (["s".toList], some ⟨.file [115], 0⟩) ∧
      ¬ projectPlugin.projectRoot.names <+: ["s".toList] ∧
      (respond projectPlugin { path := "/d" }).run (serverOf openTree) =
        (.file (MediaType.ofName indexName) [115], serverOf openTree) ∧
      (respond projectPlugin { path := "/d/index.html" }).run (serverOf openTree) =
        (.refusal 403 "Path outside project root: d/index.html", serverOf openTree) ∧
      (respond projectPlugin { path := "/l/../x" }).run (serverOf openTree) =
        (.file (MediaType.ofName "x") [115], serverOf openTree) := by
  refine ⟨create_projectPlugin, by cbv, by decide, ?_, ?_, ?_⟩
  · have hroute : route? "/d" = some (.file "d") := by rfl
    have hartifact : (projectPlugin.servesArtifacts && isArtifact "/d") = false := by decide
    have hreal : openTree.realPath (projectPlugin.projectRoot.child (asked "d")) =
        .ok (Path.ofText "/p/d") := by cbv
    have hin : isInside projectPlugin.projectRoot (Path.ofText "/p/d") = true := by decide
    have hdir : openTree.isDirectory (Path.ofText "/p/d") = .ok true := by cbv
    have hread : openTree.read ((Path.ofText "/p/d").child indexName) = .ok [115] := by cbv
    have hrun := run_serveFile_directory (s := serverOf openTree) isResolved_projectRoot (by decide)
      hreal hin hdir hread
    rw [run_respond _ rfl hroute hartifact, hrun]
    rfl
  · have hroute : route? "/d/index.html" = some (.file "d/index.html") := by rfl
    have hartifact : (projectPlugin.servesArtifacts && isArtifact "/d/index.html") = false := by
      decide
    have hreal : Host.realPath openTree
        (projectPlugin.projectRoot.child (wantedFile "d/index.html")) = .ok (Path.ofText "/s") := by
      cbv
    rw [run_respond _ rfl hroute hartifact, run_serveFile,
      show (serverOf openTree).session.host.files = openTree from rfl, hreal]
    rfl
  · have hroute : route? "/l/../x" = some (.file "l/../x") := by rfl
    have hartifact : (projectPlugin.servesArtifacts && isArtifact "/l/../x") = false := by decide
    have hreal : openTree.realPath (projectPlugin.projectRoot.child (wantedFile "l/../x")) =
        .ok (Path.ofText "/p/x") := by cbv
    have hin : isInside projectPlugin.projectRoot (Path.ofText "/p/x") = true := by decide
    have hdir : openTree.isDirectory (Path.ofText "/p/x") = .ok false := by cbv
    have hread : openTree.read (Path.ofText "/p/x") = .ok [115] := by cbv
    have hrun := run_serveFile_of_not_directory (s := serverOf openTree) hreal hin (.inl hdir)
    rw [run_respond _ rfl hroute hartifact, hrun,
      run_serveAt_file (s := serverOf openTree) hread (by decide)]
    rfl

end Server
end EmbeddedGo
