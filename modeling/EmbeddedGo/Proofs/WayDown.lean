/-
EmbeddedGo.Proofs.WayDown — what making the directories down to a place comes to.

It can be read off the tree beforehand how far down directories can be made, and what is in the way
of more (`wayDown`). Only a file can stand in the way, or a name that is too long for one; so a tree
in which some of the directories are there already comes to the same.

No link stands on the way, and the names of all but the last directory are short enough. Where one
of these is too long, the missing directories above it are made all the same, and the next one who
tries is refused with other words.

  §1 trees in which every entry stands in a directory
  §2 where a walk stops
  §3 the last directory
  §4 all directories on the way
  §5 how far down
-/
import EmbeddedGo.Proofs.Walk
import Mathlib.Data.List.Infix

namespace EmbeddedGo.FileTree

/-! ## §1 Tidy trees -/

/-- Every entry on the way to a place stands in a directory. -/
def IsTidyTo (t : FileTree) (place : Place) : Prop :=
  ∀ q name, q ++ [name] <+: place → t.entryAt (q ++ [name]) ≠ none → t.entryAt q = some .directory

/-- Every entry stands in a directory. -/
def IsTidy (t : FileTree) : Prop := ∀ place, t.IsTidyTo place

variable {t : FileTree}

theorem IsTidyTo.above {place q rest : Place} (h : t.IsTidyTo place) (hrest : rest ≠ [])
    (hq : q ++ rest <+: place) (he : t.entryAt (q ++ rest) ≠ none) :
    t.entryAt q = some .directory := by
  induction rest using List.reverseRecOn with
  | nil => exact absurd rfl hrest
  | append_singleton rest name ih =>
    rw [← List.append_assoc] at hq he
    have hd : t.entryAt (q ++ rest) = some .directory := h (q ++ rest) name hq he
    by_cases hnil : rest = []
    · simpa [hnil] using hd
    · exact ih hnil ((List.prefix_append ..).trans hq) (by simp [hd])

/-- Nothing but directories stands at the place or on the way to it. -/
def IsFree (t : FileTree) (place : Place) : Prop :=
  ∀ q, q <+: place → t.entryAt q = none ∨ t.entryAt q = some .directory

theorem IsFree.above {place q : Place} (h : t.IsFree place) (hq : q <+: place) : t.IsFree q :=
  fun r hr => h r (hr.trans hq)

theorem IsOpen.isFree {place : Place} (h : t.IsOpen place) : t.IsFree place :=
  fun q hq => .inr (h q hq)

theorem IsFree.isOpen_or {place : Place} (h : t.IsFree place) :
    t.IsOpen place ∨ ∃ q, q <+: place ∧ t.entryAt q = none := by
  by_cases hopen : t.IsOpen place
  · exact .inl hopen
  · right
    unfold IsOpen at hopen
    push Not at hopen
    obtain ⟨q, hq, hne⟩ := hopen
    exact ⟨q, hq, (h q hq).resolve_right hne⟩

/-! ## §2 Walks that stop -/

section Stops

variable {follow : Bool} {links : Nat} {names rest : List Text} {here : Place}

theorem walk_missing (hn : ∀ n ∈ names, Path.IsPlain n) (hf : ∀ n ∈ names, Fits n)
    (hhere : t.entryAt here = some .directory)
    (hfree : ∀ q, q <+: names → t.entryAt (here ++ q) = none ∨ t.entryAt (here ++ q) = some .directory)
    (hmissing : ∃ q, q <+: names ∧ t.entryAt (here ++ q) = none) (hrest : rest ≠ []) :
    t.walk follow links (names ++ rest) here = .error .notFound := by
  induction names generalizing here with
  | nil =>
    obtain ⟨q, hq, hnone⟩ := hmissing
    rw [List.prefix_nil.1 hq, List.append_nil, hhere] at hnone
    cases hnone
  | cons name names ih =>
    have hname := hn name (List.mem_cons_self ..)
    have hshort := hf name (List.mem_cons_self ..)
    rw [List.cons_append]
    rcases hfree [name] (by simp) with hnone | hdir
    · exact walk_cons_none hname hshort hnone (by simp [hrest])
    · rw [walk_cons_directory hname.notDots hname.notDot hshort hdir]
      refine ih (fun n h => hn n (List.mem_cons_of_mem _ h))
        (fun n h => hf n (List.mem_cons_of_mem _ h)) hdir (fun q hq => ?_) ?_
      · rw [List.append_assoc, List.singleton_append]
        exact hfree (name :: q) (List.cons_prefix_cons.2 ⟨rfl, hq⟩)
      · obtain ⟨q, hq, hnone⟩ := hmissing
        cases q with
        | nil =>
          rw [List.append_nil, hhere] at hnone
          cases hnone
        | cons a q =>
          obtain ⟨ha, hq'⟩ := List.cons_prefix_cons.1 hq
          subst ha
          exact ⟨q, hq', by rwa [List.append_assoc, List.singleton_append]⟩

theorem walk_barred (htidy : t.IsTidyTo (here ++ names)) (hn : ∀ n ∈ names, Path.IsPlain n)
    (hf : ∀ n ∈ names, Fits n) (hhere : t.entryAt here = some .directory)
    (hbar : ∃ q, q <+: names ∧ ∃ content, t.entryAt (here ++ q) = some (.file content))
    (hrest : rest ≠ []) : t.walk follow links (names ++ rest) here = .error .notDirectory := by
  induction names generalizing here with
  | nil =>
    obtain ⟨q, hq, content, hfile⟩ := hbar
    rw [List.prefix_nil.1 hq, List.append_nil, hhere] at hfile
    cases hfile
  | cons name names ih =>
    have hname := hn name (List.mem_cons_self ..)
    have hshort := hf name (List.mem_cons_self ..)
    obtain ⟨q, hq, content, hfile⟩ := hbar
    rw [List.cons_append]
    cases q with
    | nil =>
      rw [List.append_nil, hhere] at hfile
      cases hfile
    | cons a q =>
      obtain ⟨ha, hq'⟩ := List.cons_prefix_cons.1 hq
      subst ha
      by_cases hnil : q = []
      · rw [hnil] at hfile
        exact walk_cons_file hname hshort hfile (by simp [hrest])
      · -- above the file there are directories only
        have hfile' : t.entryAt (here ++ [a] ++ q) = some (.file content) := by
          rwa [List.append_assoc, List.singleton_append]
        have hthere : t.entryAt (here ++ [a] ++ q) ≠ none :=
          hfile' ▸ Option.some_ne_none _
        have hon : here ++ [a] ++ q <+: here ++ a :: names := by
          rw [List.append_assoc]
          exact (List.prefix_append_right_inj _).2 hq
        have hdir := htidy.above hnil hon hthere
        rw [walk_cons_directory hname.notDots hname.notDot hshort hdir]
        exact ih (by rwa [List.append_assoc]) (fun n h => hn n (List.mem_cons_of_mem _ h))
          (fun n h => hf n (List.mem_cons_of_mem _ h)) hdir ⟨q, hq', content, hfile'⟩

end Stops

/-! ## §3 The last directory -/

section Last

variable {names : List Text} {last : Text}

theorem locate_open (follow : Bool) (hn : ∀ n ∈ names ++ [last], Path.IsPlain n)
    (hf : ∀ n ∈ names ++ [last], Fits n) (hr : refused? (Path.ofNames (names ++ [last])) = none)
    (hopen : t.IsOpen names) (hlink : ∀ target, t.entryAt (names ++ [last]) ≠ some (.link target)) :
    t.locate follow (Path.ofNames (names ++ [last])) =
      .ok (names ++ [last], t.get? (names ++ [last])) := by
  have hlast := hn last (by simp)
  have hdirs : ∀ q, q <+: names → t.entryAt ([] ++ q) = some .directory := hopen
  rw [locate_resolved t follow ⟨rfl, hn⟩, hr]
  show t.walk follow linkLimit (names ++ [last]) [] = _
  rw [walk_append names (fun n h => hn n (by simp [h])) (fun n h => hf n (by simp [h])) hdirs,
    List.nil_append, walk_last hlast.notDots hlast.notDot (hf last (by simp)) hlink]

theorem locate_missing (follow : Bool) (hn : ∀ n ∈ names ++ [last], Path.IsPlain n)
    (hf : ∀ n ∈ names, Fits n) (hr : refused? (Path.ofNames (names ++ [last])) = none)
    (hfree : t.IsFree names) (hmissing : ∃ q, q <+: names ∧ t.entryAt q = none) :
    t.locate follow (Path.ofNames (names ++ [last])) = .error .notFound := by
  rw [locate_resolved t follow ⟨rfl, hn⟩, hr]
  exact walk_missing (fun n h => hn n (by simp [h])) hf (entryAt_nil t) hfree hmissing (by simp)

theorem locate_barred (follow : Bool) (htidy : t.IsTidyTo names)
    (hn : ∀ n ∈ names ++ [last], Path.IsPlain n) (hf : ∀ n ∈ names, Fits n)
    (hr : refused? (Path.ofNames (names ++ [last])) = none)
    (hbar : ∃ q, q <+: names ∧ ∃ content, t.entryAt q = some (.file content)) :
    t.locate follow (Path.ofNames (names ++ [last])) = .error .notDirectory := by
  rw [locate_resolved t follow ⟨rfl, hn⟩, hr]
  exact walk_barred htidy (fun n h => hn n (by simp [h])) hf (entryAt_nil t) hbar (by simp)

theorem locate_tooLong (follow : Bool) (hn : ∀ n ∈ names ++ [last], Path.IsPlain n)
    (hf : ∀ n ∈ names, Fits n) (hlast : ¬ Fits last)
    (hr : refused? (Path.ofNames (names ++ [last])) = none) (hopen : t.IsOpen names) :
    t.locate follow (Path.ofNames (names ++ [last])) = .error .nameTooLong := by
  have hdirs : ∀ q, q <+: names → t.entryAt ([] ++ q) = some .directory := hopen
  rw [locate_resolved t follow ⟨rfl, hn⟩, hr]
  show t.walk follow linkLimit (names ++ [last]) [] = _
  rw [walk_append names (fun n h => hn n (by simp [h])) hf hdirs,
    walk_cons_tooLong (hn last (by simp)) hlast]

theorem makeDirectory_of_locate {p : Path} {e : Refusal} (h : t.locate false p = .error e) :
    t.makeDirectory p = .error e := by
  rw [makeDirectory, h]

/-- A path that leads nowhere names no directory that could be made. -/
theorem ensureDirectory_of_locate {p : Path} {e : Refusal}
    (h : ∀ follow, t.locate follow p = .error e) :
    t.ensureDirectory p = .error { refusal := e, path := p.text } := by
  rw [ensureDirectory, makeDirectory_of_locate (h false)]
  unfold isDirectory test find
  rw [h true]
  cases e <;> rfl

/-- The tree with a directory more. -/
structure Adds (t : FileTree) (place : Place) (t' : FileTree) : Prop where
  here : t'.here = t.here
  entries : ∀ q, t'.entryAt q = if q = place then some .directory else t.entryAt q

theorem makeDirectory_open (hn : ∀ n ∈ names ++ [last], Path.IsPlain n)
    (hf : ∀ n ∈ names ++ [last], Fits n) (hr : refused? (Path.ofNames (names ++ [last])) = none)
    (hopen : t.IsOpen names) (hnone : t.entryAt (names ++ [last]) = none) :
    ∃ t', t.makeDirectory (Path.ofNames (names ++ [last])) = .ok t' ∧ t.Adds (names ++ [last]) t' := by
  refine ⟨t.insert (names ++ [last]) .directory, ?_, here_insert .., fun q => ?_⟩
  · rw [makeDirectory, locate_open false hn hf hr hopen (by simp [hnone]),
      get?_eq_none_of_entryAt hnone]
  · exact entryAt_insert (by simp) ..

theorem makeDirectory_there (hn : ∀ n ∈ names ++ [last], Path.IsPlain n)
    (hf : ∀ n ∈ names ++ [last], Fits n) (hr : refused? (Path.ofNames (names ++ [last])) = none)
    (hopen : t.IsOpen names) {e : Entry} (he : t.entryAt (names ++ [last]) = some e)
    (hlink : ∀ target, e ≠ .link target) :
    t.makeDirectory (Path.ofNames (names ++ [last])) = .error .alreadyExists := by
  obtain ⟨m, hitem⟩ := entryAt_eq_some he
  rw [makeDirectory, locate_open false hn hf hr hopen (by simp [he, hlink]), hitem]

theorem ensureDirectory_open (hn : ∀ n ∈ names ++ [last], Path.IsPlain n)
    (hf : ∀ n ∈ names ++ [last], Fits n) (hr : refused? (Path.ofNames (names ++ [last])) = none)
    (hopen : t.IsOpen names) (hfree : t.IsFree (names ++ [last])) :
    ∃ t', t.ensureDirectory (Path.ofNames (names ++ [last])) = .ok t' ∧
      t.Adds (names ++ [last]) t' := by
  rcases hfree _ (List.prefix_refl _) with hnone | hdir
  · obtain ⟨t', hmake, hadds⟩ := makeDirectory_open hn hf hr hopen hnone
    exact ⟨t', by rw [ensureDirectory, hmake], hadds⟩
  · refine ⟨t, ?_, rfl, fun q => ?_⟩
    · obtain ⟨m, hitem⟩ := entryAt_eq_some hdir
      rw [ensureDirectory, makeDirectory_there hn hf hr hopen hdir (by simp)]
      unfold isDirectory test find
      rw [locate_open true hn hf hr hopen (by simp [hdir]), hitem]
    · split
      · next hq => rw [hq, hdir]
      · rfl

theorem ensureDirectory_file (hn : ∀ n ∈ names ++ [last], Path.IsPlain n)
    (hf : ∀ n ∈ names ++ [last], Fits n) (hr : refused? (Path.ofNames (names ++ [last])) = none)
    (hopen : t.IsOpen names) {content : Bytes}
    (hfile : t.entryAt (names ++ [last]) = some (.file content)) :
    t.ensureDirectory (Path.ofNames (names ++ [last])) =
      .error { refusal := .alreadyExists, path := (Path.ofNames (names ++ [last])).text } := by
  obtain ⟨m, hitem⟩ := entryAt_eq_some hfile
  rw [ensureDirectory, makeDirectory_there hn hf hr hopen hfile (by simp)]
  unfold isDirectory test find
  rw [locate_open true hn hf hr hopen (by simp [hfile]), hitem]

end Last

/-! ## §4 The way -/

/-- The tree with directories all the way down to a place. -/
structure Opens (t : FileTree) (place : Place) (t' : FileTree) : Prop where
  here : t'.here = t.here
  entries : ∀ q, t'.entryAt q = if q <+: place then some .directory else t.entryAt q

theorem Opens.isOpen {t' : FileTree} {place : Place} (h : t.Opens place t') : t'.IsOpen place := by
  intro q hq
  rw [h.entries, if_pos hq]

theorem Opens.refl {place : Place} (h : t.IsOpen place) : t.Opens place t := by
  refine ⟨rfl, fun q => ?_⟩
  split
  · next hq => exact h q hq
  · rfl

/-- A last directory below those that are there. -/
theorem Opens.snoc {t₁ t₂ : FileTree} {names : List Text} {last : Text} (h : t.Opens names t₁)
    (h' : t₁.Adds (names ++ [last]) t₂) : t.Opens (names ++ [last]) t₂ := by
  refine ⟨h'.here.trans h.here, fun q => ?_⟩
  rw [h'.entries, h.entries]
  by_cases hq : q = names ++ [last]
  · rw [if_pos hq, if_pos (hq ▸ List.prefix_refl _)]
  · rw [if_neg hq]
    refine if_congr ?_ rfl rfl
    rw [List.prefix_concat_iff, or_iff_right hq]

/-- What is not there yet is not there either when the way down to it was made. -/
theorem Opens.isFree {t₁ : FileTree} {names : List Text} {last : Text} (h : t.Opens names t₁)
    (hfree : t.IsFree (names ++ [last])) : t₁.IsFree (names ++ [last]) := by
  intro q hq
  rw [h.entries]
  split
  · exact .inr rfl
  · exact hfree q hq

theorem ensurePath_of_refused {p : Path} {e : Refusal} {f : Fault} (depth : Nat)
    (hmake : t.makeDirectory p = .error e) (he : e ≠ .notFound)
    (hensure : t.ensureDirectory p = .error f) : t.ensurePath depth p = (.error f, t) := by
  unfold ensurePath
  rw [hmake]
  cases e with
  | notFound => exact absurd rfl he
  | _ => simp only [hensure]

theorem ensurePath_succ_of_missing {p : Path} (depth : Nat)
    (hmake : t.makeDirectory p = .error .notFound) {t₁ : FileTree}
    (habove : t.ensurePath depth p.parent = (.ok (), t₁)) :
    t.ensurePath (depth + 1) p =
      match t₁.ensureDirectory p with
      | .ok t₂ => (.ok (), t₂)
      | .error f => (.error f, t₁) := by
  rw [ensurePath, hmake]
  cases hlast : t₁.ensureDirectory p with
  | ok t₂ => simp only [habove, hlast]
  | error f => simp only [habove, hlast]

/-- Where only directories stand on the way, all that are missing are made. -/
theorem ensurePath_free {names : List Text} (hn : ∀ n ∈ names, Path.IsPlain n)
    (hf : ∀ n ∈ names, Fits n) (hr : refused? (Path.ofNames names) = none)
    (hfree : t.IsFree names) {depth : Nat} (hdepth : names.length ≤ depth) :
    ∃ t', t.ensurePath depth (Path.ofNames names) = (.ok (), t') ∧ t.Opens names t' := by
  induction names using List.reverseRecOn generalizing depth with
  | nil =>
    have htop : ∀ follow, t.locate follow (Path.ofNames []) = .ok ([], some ⟨.directory, 0⟩) := by
      intro follow
      rw [locate_resolved t follow ⟨rfl, hn⟩, hr]
      show t.walk follow linkLimit [] [] = _
      rw [walk]
      rfl
    have hmake : t.makeDirectory (Path.ofNames []) = .error .alreadyExists := by
      rw [makeDirectory, htop]
    have hensure : t.ensureDirectory (Path.ofNames []) = .ok t := by
      rw [ensureDirectory, hmake]
      unfold isDirectory test find
      rw [htop]
    refine ⟨t, ?_, .refl (isOpen_nil t)⟩
    unfold ensurePath
    simp only [hmake, hensure]
  | append_singleton names last ih =>
    rcases (hfree.above (List.prefix_append names [last])).isOpen_or with hopen | hmissing
    · rcases hfree _ (List.prefix_refl _) with hnone | hdir
      · obtain ⟨t', hmake, hadds⟩ := makeDirectory_open hn hf hr hopen hnone
        refine ⟨t', ?_, (Opens.refl hopen).snoc hadds⟩
        unfold ensurePath
        simp only [hmake]
      · obtain ⟨t', hensure, hadds⟩ := ensureDirectory_open hn hf hr hopen hfree
        refine ⟨t', ?_, (Opens.refl hopen).snoc hadds⟩
        unfold ensurePath
        simp only [makeDirectory_there hn hf hr hopen hdir (by simp), hensure]
    · obtain ⟨depth, rfl⟩ : ∃ d, depth = d + 1 :=
        ⟨depth - 1, by rw [List.length_append, List.length_singleton] at hdepth; omega⟩
      have hmake := makeDirectory_of_locate (locate_missing false hn (fun n h => hf n (by simp [h]))
        hr (hfree.above (List.prefix_append ..)) hmissing)
      have hdepth' : names.length ≤ depth := by
        rw [List.length_append, List.length_singleton] at hdepth
        omega
      obtain ⟨t₁, habove, hopens⟩ := ih (fun n h => hn n (by simp [h])) (fun n h => hf n (by simp [h]))
        (refused?_parent hr) (hfree.above (List.prefix_append ..)) hdepth'
      obtain ⟨t₂, hensure, hadds⟩ :=
        ensureDirectory_open hn hf hr hopens.isOpen (hopens.isFree hfree)
      refine ⟨t₂, ?_, hopens.snoc hadds⟩
      have hparent : (Path.ofNames (names ++ [last])).parent = Path.ofNames names := by
        simp [Path.parent, Path.ofNames]
      rw [ensurePath_succ_of_missing depth hmake (hparent ▸ habove), hensure]

/-! ## §5 How far down -/

/-- Whether a file stands at a place. -/
def isFileAt (t : FileTree) (place : Place) : Bool :=
  match t.entryAt place with
  | some (.file _) => true
  | _ => false

theorem isFileAt_iff {place : Place} :
    t.isFileAt place = true ↔ ∃ content, t.entryAt place = some (.file content) := by
  unfold isFileAt
  split
  · next content h => simp [h]
  · next h => simpa using h

/-- How far down directories can be made, and what is in the way of the last. -/
def wayDown (t : FileTree) (names : List Text) (last : Text) : Place × Option Refusal :=
  match refused? (Path.ofNames (names ++ [last])) with
  | some e => ([], some e)
  | none =>
    if names.inits.any t.isFileAt then ([], some .notDirectory)
    else if nameLimit < (Utf8.encode last).length then (names, some .nameTooLong)
    else if t.isFileAt (names ++ [last]) then ([], some .alreadyExists)
    else (names ++ [last], none)

/-- What trying to make a directory comes to if that is in the way. -/
def wayOutcome (p : Path) : Option Refusal → Except Fault Unit
  | none => .ok ()
  | some e => .error { refusal := e, path := p.text }

variable {names : List Text} {last : Text}

/-- The way down leads nowhere but to the directory or the one above it, and past no file. -/
theorem wayDown_free (hstraight : t.IsStraight (names ++ [last])) :
    t.IsFree (t.wayDown names last).1 ∧
      ((t.wayDown names last).1 = [] ∨ (t.wayDown names last).1 = names ∨
        (t.wayDown names last).1 = names ++ [last]) := by
  have hnil : t.IsFree [] := (isOpen_nil t).isFree
  have hfree : ∀ q, q <+: names ++ [last] → t.isFileAt q = false →
      t.entryAt q = none ∨ t.entryAt q = some .directory := by
    intro q hq hfile
    have hlink := hstraight q hq
    match he : t.entryAt q with
    | none => exact .inl rfl
    | some .directory => exact .inr rfl
    | some (.link target) => exact absurd he (hlink target)
    | some (.file content) => simp [isFileAt, he] at hfile
  unfold wayDown
  split
  · exact ⟨hnil, .inl rfl⟩
  · split
    · exact ⟨hnil, .inl rfl⟩
    · next hany =>
      have hnames : t.IsFree names := by
        intro q hq
        refine hfree q (hq.trans (List.prefix_append ..)) ?_
        by_contra hfile
        exact hany (List.any_eq_true.2 ⟨q, (List.mem_inits _ _).2 hq, by simpa using hfile⟩)
      split
      · exact ⟨hnames, .inr (.inl rfl)⟩
      · split
        · exact ⟨hnil, .inl rfl⟩
        · next hfile =>
          refine ⟨fun q hq => ?_, .inr (.inr rfl)⟩
          rcases List.prefix_concat_iff.1 hq with rfl | hq
          · exact hfree _ (List.prefix_refl _) (by simpa using hfile)
          · exact hnames q hq

/-- If nothing is in the way of the last, its name is short enough, and it is where the way ends. -/
theorem wayDown_of_none (h : (t.wayDown names last).2 = none) :
    (t.wayDown names last).1 = names ++ [last] ∧ Fits last ∧
      refused? (Path.ofNames (names ++ [last])) = none := by
  unfold wayDown at h ⊢
  split at h
  · cases h
  · next hr =>
    by_cases hany : names.inits.any t.isFileAt = true
    · rw [if_pos hany] at h
      cases h
    · rw [if_neg hany] at h ⊢
      by_cases hlong : nameLimit < (Utf8.encode last).length
      · rw [if_pos hlong] at h
        cases h
      · rw [if_neg hlong] at h ⊢
        by_cases hfile : t.isFileAt (names ++ [last]) = true
        · rw [if_pos hfile] at h
          cases h
        · rw [if_neg hfile]
          exact ⟨rfl, Nat.not_lt.1 hlong, hr⟩

/-- Only files matter, and only those at places on the way. -/
theorem wayDown_congr {t' : FileTree}
    (h : ∀ q, q <+: names ++ [last] → t.isFileAt q = t'.isFileAt q) :
    t.wayDown names last = t'.wayDown names last := by
  have hany : names.inits.any t.isFileAt = names.inits.any t'.isFileAt := by
    rw [Bool.eq_iff_iff, List.any_eq_true, List.any_eq_true]
    refine exists_congr fun q => and_congr_right fun hq => ?_
    rw [h q (((List.mem_inits _ _).1 hq).trans (List.prefix_append ..))]
  unfold wayDown
  rw [hany, h _ (List.prefix_refl _)]

theorem ne_notFound_of_refused {p : Path} {e : Refusal} (h : refused? p = some e) :
    e ≠ .notFound := by
  rintro rfl
  unfold refused? at h
  split at h
  · simp at h
  · split at h <;> simp at h

/-- Above an entry stand directories. -/
theorem IsTidyTo.isOpen (htidy : t.IsTidyTo (names ++ [last]))
    (hthere : t.entryAt (names ++ [last]) ≠ none) : t.IsOpen names := by
  rintro q ⟨rest, hrest⟩
  have hplace : q ++ (rest ++ [last]) = names ++ [last] := by
    rw [← List.append_assoc, hrest]
  rw [← hplace] at htidy hthere
  exact htidy.above (by simp) (List.prefix_refl _) hthere

/-- Where the last name is too long, the directories above it are made. -/
theorem ensurePath_tooLong (hn : ∀ n ∈ names ++ [last], Path.IsPlain n) (hf : ∀ n ∈ names, Fits n)
    (hr : refused? (Path.ofNames (names ++ [last])) = none) (hlast : ¬ Fits last)
    (hfree : t.IsFree names) :
    ∃ t', t.ensurePath (names.length + 1) (Path.ofNames (names ++ [last])) =
        (.error { refusal := .nameTooLong, path := (Path.ofNames (names ++ [last])).text }, t') ∧
      t.Opens names t' := by
  rcases hfree.isOpen_or with hopen | hmissing
  · have hloc := fun follow => locate_tooLong follow hn hf hlast hr hopen
    exact ⟨t, ensurePath_of_refused _ (makeDirectory_of_locate (hloc false)) (by simp)
      (ensureDirectory_of_locate hloc), .refl hopen⟩
  · have hmake := makeDirectory_of_locate (locate_missing false hn hf hr hfree hmissing)
    obtain ⟨t₁, habove, hopens⟩ := ensurePath_free (fun n h => hn n (by simp [h])) hf
      (refused?_parent hr) hfree (Nat.le_refl _)
    have hparent : (Path.ofNames (names ++ [last])).parent = Path.ofNames names := by
      simp [Path.parent, Path.ofNames]
    have hloc := fun follow => locate_tooLong follow hn hf hlast hr hopens.isOpen
    refine ⟨t₁, ?_, hopens⟩
    rw [ensurePath_succ_of_missing _ hmake (hparent ▸ habove), ensureDirectory_of_locate hloc]

/-- Directories are made down as far as that goes, and nothing else changes. -/
theorem makePath_eq (htidy : t.IsTidyTo (names ++ [last])) (hstraight : t.IsStraight (names ++ [last]))
    (hn : ∀ n ∈ names ++ [last], Path.IsPlain n) (hf : ∀ n ∈ names, Fits n) :
    ∃ t', t.makePath (Path.ofNames (names ++ [last])) =
        (wayOutcome (Path.ofNames (names ++ [last])) (t.wayDown names last).2, t') ∧
      t.Opens (t.wayDown names last).1 t' := by
  have hplace := (wayDown_free hstraight).1
  have hdepth : (Path.ofNames (names ++ [last])).names.length = names.length + 1 := by
    simp [Path.ofNames]
  rw [makePath, hdepth]
  unfold wayDown at hplace ⊢
  cases hr : refused? (Path.ofNames (names ++ [last])) with
  | some e =>
    have hloc : ∀ follow, t.locate follow (Path.ofNames (names ++ [last])) = .error e := by
      intro follow
      rw [locate_resolved t follow ⟨rfl, hn⟩, hr]
    exact ⟨t, ensurePath_of_refused _ (makeDirectory_of_locate (hloc false))
      (ne_notFound_of_refused hr) (ensureDirectory_of_locate hloc), .refl (isOpen_nil t)⟩
  | none =>
    simp only [hr] at hplace ⊢
    split
    · next hany =>
      obtain ⟨q, hq, hfile⟩ := List.any_eq_true.1 hany
      have htidy' : t.IsTidyTo names :=
        fun r name hr => htidy r name (hr.trans (List.prefix_append ..))
      have hloc := fun follow => locate_barred follow htidy' hn hf hr
        ⟨q, (List.mem_inits _ _).1 hq, isFileAt_iff.1 hfile⟩
      exact ⟨t, ensurePath_of_refused _ (makeDirectory_of_locate (hloc false)) (by simp)
        (ensureDirectory_of_locate hloc), .refl (isOpen_nil t)⟩
    · next hany =>
      rw [if_neg hany] at hplace
      split
      · next hlong =>
        rw [if_pos hlong] at hplace
        exact ensurePath_tooLong hn hf hr (Nat.not_le.2 hlong) hplace
      · next hshort =>
        rw [if_neg hshort] at hplace
        have hfits : ∀ n ∈ names ++ [last], Fits n := by
          intro n h
          rcases List.mem_append.1 h with h | h
          · exact hf n h
          · exact List.mem_singleton.1 h ▸ Nat.not_lt.1 hshort
        split
        · next hfile =>
          obtain ⟨content, hfile⟩ := isFileAt_iff.1 hfile
          have hopen : t.IsOpen names := htidy.isOpen (by simp [hfile])
          exact ⟨t, ensurePath_of_refused _ (makeDirectory_there hn hfits hr hopen hfile (by simp))
            (by simp) (ensureDirectory_file hn hfits hr hopen hfile), .refl (isOpen_nil t)⟩
        · next hfile =>
          rw [if_neg hfile] at hplace
          exact ensurePath_free hn hfits hr hplace (by simp)

end EmbeddedGo.FileTree
