/-
EmbeddedGo.Proofs.LoadFailures — how the loading of options can fail.

Options are loaded, or a failure is reported as one of the configuration. There are other failures
besides, and they are exactly these (`load_unreported_iff`): a path cannot even be looked up, the
bytes of a file in JSON are no text, a number in it is too long or it is nested too deeply, the
reader of YAML fails in a way of its own, or a name in the mapping is no text. That is so for any
look-up and any reader of YAML.

On the files of a host a look-up fails for a name on the way that is too long, and for nothing else
(`lookup_ofFiles_iff`). And what the readers come to can be seen in the text (`Warns`). So there are texts
that are safe, JSON texts without very long numbers and YAML texts without digits and without escapes for
what is no character, if they are not nested too deeply (`isReported_of_safe`).

  §1 looking a path up
  §2 the file that is loaded
  §3 failures that are not reported
  §4 texts that are safe
-/
import EmbeddedGo.Config
import EmbeddedGo.Proofs.JsonFaults
import EmbeddedGo.Proofs.Walk
import EmbeddedGo.Proofs.YamlProblems

namespace EmbeddedGo

/-! ## §1 Looking up -/

namespace FileTree

variable {t : FileTree} {p : Path}

/-- What a walk can be refused for. -/
theorem refusal_of_walk {follow : Bool} {links : Nat} {names : List Text} {here : Place}
    {e : Refusal} (h : t.walk follow links names here = .error e) :
    Refusal.meansAbsent e = true ∨ e = .nameTooLong := by
  fun_induction FileTree.walk t follow links names here with
  | case1 => cases h
  | case2 links rest here ih => exact ih h
  | case3 links rest here hd ih => exact ih h
  | case4 => cases h; exact .inr rfl
  | case5 => cases h
  | case6 => cases h; exact .inl rfl
  | case7 links name rest here hdots hdot hf m hitem ih => exact ih h
  | case8 => cases h
  | case9 => cases h; exact .inl rfl
  | case10 => cases h
  | case11 => cases h; exact .inl rfl
  | case12 name rest here hdots hdot hf target m hitem hr links ih => exact ih h

theorem refusal_of_find {e : Refusal} (h : t.find p = .error e) :
    Refusal.meansAbsent e = true ∨ e = .nameTooLong := by
  unfold find at h
  split at h
  · next refusal hl =>
    cases h
    unfold locate at hl
    split at hl
    · cases hl
      exact .inl rfl
    · split at hl
      · cases hl
        exact .inr rfl
      · exact refusal_of_walk hl
  · cases h
    exact .inl rfl
  · cases h

/-- Whether a path leads to anything can be told, unless something on the way is too long. -/
theorem exists?_eq_error_iff {f : Fault} :
    t.exists? p = .error f ↔
      t.find p = .error .nameTooLong ∧ f = { refusal := .nameTooLong, path := p.text } := by
  unfold exists? test
  constructor
  · intro h
    split at h
    · cases h
    · next e hfind =>
      split at h
      · cases h
      · next habsent =>
        cases h
        obtain rfl := (refusal_of_find hfind).resolve_left habsent
        exact ⟨hfind, rfl⟩
  · rintro ⟨hfind, rfl⟩
    rw [hfind]
    rfl

/-- What can be read is there. -/
theorem exists?_of_read {content : Bytes} (h : t.read p = .ok content) :
    t.exists? p = .ok true := by
  unfold FileTree.read at h
  unfold exists? test
  split at h
  · next hfind => rw [hfind]
  · cases h
  · cases h

end FileTree

namespace Config

variable {src : Source} {files : FileTree} {named : Option Path} {root p : Path} {paths : List Path}

/-! ## §2 The file -/

/-- The paths under which the options can stand, the first first. -/
def candidates (named : Option Path) (root : Path) : List Path :=
  match named with
  | some p => [p]
  | none => defaultNames.map root.child

/-- One of some paths is come to, for all before it lead to nothing. -/
inductive Meets (src : Source) : List Path → Path → Prop
  | here (p : Path) (paths : List Path) : Meets src (p :: paths) p
  | later {q p : Path} {paths : List Path} (absent : src.exists? q = .ok false)
      (h : Meets src paths p) : Meets src (q :: paths) p

/-- What the search for a file comes to is said by the path that it comes to. -/
theorem findFile_of_meets {names : List Text} (hmeets : Meets src (names.map root.child) p)
    (hthere : src.exists? p ≠ .ok false) :
    findFile src root names =
      match src.exists? p with
      | .error cause => .error (.unforeseen cause)
      | .ok _ => .ok (some p) := by
  generalize hpaths : names.map root.child = paths at hmeets
  induction hmeets generalizing names with
  | here p paths =>
    obtain ⟨name, names, rfl, rfl, rfl⟩ := List.map_eq_cons_iff.1 hpaths
    rw [findFile, isThere]
    match hfound : src.exists? (root.child name) with
    | .error _ => rfl
    | .ok false => exact absurd hfound hthere
    | .ok true => rfl
  | later absent _ ih =>
    obtain ⟨name, names, rfl, rfl, rfl⟩ := List.map_eq_cons_iff.1 hpaths
    rw [findFile, isThere, absent]
    exact ih hthere rfl

/-- A search comes to a path, or all of its paths lead to nothing. -/
theorem meets_or_absent (src : Source) (paths : List Path) :
    (∃ p, Meets src paths p ∧ src.exists? p ≠ .ok false) ∨
      ∀ p ∈ paths, src.exists? p = .ok false := by
  induction paths with
  | nil => exact .inr (by simp)
  | cons q paths ih =>
    by_cases hq : src.exists? q = .ok false
    · rcases ih with ⟨p, hmeets, hp⟩ | hall
      · exact .inl ⟨p, .later hq hmeets, hp⟩
      · exact .inr (by simpa [hq] using hall)
    · exact .inl ⟨q, .here q paths, hq⟩

theorem findFile_of_absent {names : List Text}
    (h : ∀ p ∈ names.map root.child, src.exists? p = .ok false) :
    findFile src root names = .ok none := by
  induction names with
  | nil => rfl
  | cons name names ih =>
    rw [findFile, isThere, h _ (by simp)]
    exact ih fun p hp => h p (by simp [hp])

theorem loadFrom_of_meets (hmeets : Meets src (candidates named root) p)
    (hthere : src.exists? p ≠ .ok false) :
    loadFrom src named root =
      match src.exists? p with
      | .error cause => .error (.unforeseen cause)
      | .ok _ => readFile src p >>= optionsOf p := by
  cases named with
  | some q =>
    cases hmeets with
    | here =>
      rw [loadFrom, isThere]
      match hfound : src.exists? p with
      | .error _ => rfl
      | .ok false => exact absurd hfound hthere
      | .ok true => rfl
    | later _ h => cases h
  | none =>
    rw [loadFrom, findFile_of_meets hmeets hthere]
    cases src.exists? p <;> rfl

/-- Where no file is, none is to be had but what was named. -/
theorem loadFrom_of_absent (h : ∀ p ∈ candidates named root, src.exists? p = .ok false) :
    loadFrom src named root =
      match named with
      | some p => .error (.missing p.text)
      | none => .ok {} := by
  cases named with
  | some p =>
    rw [loadFrom, isThere, h p (by simp [candidates])]
    rfl
  | none =>
    rw [loadFrom, findFile_of_absent h]
    rfl

/-! ## §3 Failures -/

/-- The text that bytes hold. -/
def textOf? (content : Bytes) : Option Text := (Utf8.decode? content).map Text.unifyBreaks

/-- The contents of a file come to a failure that is not reported. -/
inductive Breaks (src : Source) (p : Path) (content : Bytes) : Failure → Prop
  | jsonBytes (hp : p.ending = ".json".toList) (hs : textOf? content = none) :
      Breaks src p content (.unforeseen .notText)
  | jsonNumber {s : Text} {digits : Nat} (hp : p.ending = ".json".toList)
      (hs : textOf? content = some s)
      (h : Json.readNested src.nesting s = .error (.numberTooLong digits)) :
      Breaks src p content (.unforeseen (.foreign (Json.tooLongMessage digits)))
  | jsonDepth {s : Text} {what : Text} (hp : p.ending = ".json".toList)
      (hs : textOf? content = some s) (h : Json.readNested src.nesting s = .error (.tooDeep what)) :
      Breaks src p content (.unforeseen (.tooDeep (Json.tooDeepMessage what)))
  | yaml {cause : Error} (hp : p.ending ≠ ".json".toList)
      (h : src.yaml p.text content = .error (.other cause)) : Breaks src p content (.unforeseen cause)
  | key {found : Except (List Options.Issue) Options}
      (h : readBytes src p content = .ok (.mapping false found)) : Breaks src p content .nameNotText

theorem optionsOf_unreported_iff {d : Document} {e : Failure} :
    optionsOf p d = .error e ∧ e.isReported = false ↔
      (∃ found, d = .mapping false found) ∧ e = .nameNotText := by
  constructor
  · rintro ⟨h, hreported⟩
    rcases d with _ | ⟨_ | _, issues | o⟩ | _ <;> cases h
    · exact ⟨⟨_, rfl⟩, rfl⟩
    · exact ⟨⟨_, rfl⟩, rfl⟩
    · cases hreported
    · cases hreported
  · rintro ⟨⟨found, rfl⟩, rfl⟩
    exact ⟨rfl, rfl⟩

/-- A mapping with a name that is no text. -/
theorem Document.exists_of_ofValue {v : Value} {found : Except (List Options.Issue) Options}
    (h : Document.ofValue v = .mapping false found) :
    ∃ entries, v = .map entries ∧ ∃ entry ∈ entries, entry.1.isString = false := by
  unfold Document.ofValue at h
  split at h
  · cases h
  · split at h
    · next entries _ =>
      exact ⟨entries, rfl, by simpa using (Document.mapping.inj h).1⟩
    · cases h

theorem readBytes_json (hp : p.ending = ".json".toList) (content : Bytes) :
    readBytes src p content = match textOf? content with
      | none => .error (.unforeseen .notText)
      | some s => readJson src.nesting p.text s := by
  rw [readBytes, if_pos hp, textOf?]
  cases Utf8.decode? content <;> rfl

/-- A reader fails in a way that is not reported. -/
theorem readBytes_unreported {content : Bytes} {e : Failure} (h : readBytes src p content = .error e)
    (hreported : e.isReported = false) : Breaks src p content e := by
  by_cases hp : p.ending = ".json".toList
  · rw [readBytes_json hp] at h
    split at h
    · next hs =>
      cases h
      exact .jsonBytes hp hs
    · next s hs =>
      unfold readJson at h
      split at h <;> cases h
      · next hread => exact .jsonNumber hp hs hread
      · next hread => exact .jsonDepth hp hs hread
      · cases hreported
  · rw [readBytes, if_neg hp] at h
    split at h <;> cases h
    · cases hreported
    · next hread => exact .yaml hp hread

/-- Contents come to a failure that is not reported just if they break. -/
theorem breaks_iff {content : Bytes} (hread : src.read p = .ok content) {e : Failure} :
    readFile src p >>= optionsOf p = .error e ∧ e.isReported = false ↔ Breaks src p content e := by
  have hfile : readFile src p = readBytes src p content := by rw [readFile, hread]
  rw [hfile]
  constructor
  · rintro ⟨h, hreported⟩
    rcases hbytes : readBytes src p content with cause | d
    · rw [hbytes] at h
      cases h
      exact readBytes_unreported hbytes hreported
    · rw [hbytes] at h
      obtain ⟨⟨found, rfl⟩, rfl⟩ := optionsOf_unreported_iff.1 ⟨h, hreported⟩
      exact .key hbytes
  · intro h
    cases h with
    | jsonBytes hp hs => rw [readBytes_json hp, hs]; exact ⟨rfl, rfl⟩
    | jsonNumber hp hs h | jsonDepth hp hs h =>
      rw [readBytes_json hp, hs]
      dsimp only
      rw [readJson, h]
      exact ⟨rfl, rfl⟩
    | yaml hp h => rw [readBytes, if_neg hp, h]; exact ⟨rfl, rfl⟩
    | key h => rw [h]; exact ⟨rfl, rfl⟩

/-- A failure of the loading is not reported just if a path that it comes to cannot be looked up, or the
contents of the file there break. -/
theorem load_unreported_iff {e : Failure} :
    loadFrom src named root = .error e ∧ e.isReported = false ↔
      ∃ p, Meets src (candidates named root) p ∧
        ((∃ cause, src.exists? p = .error cause ∧ e = .unforeseen cause) ∨
          src.exists? p = .ok true ∧ ∃ content, src.read p = .ok content ∧ Breaks src p content e) := by
  constructor
  · rintro ⟨h, hreported⟩
    rcases meets_or_absent src (candidates named root) with ⟨p, hmeets, hthere⟩ | habsent
    · refine ⟨p, hmeets, ?_⟩
      rw [loadFrom_of_meets hmeets hthere] at h
      match hfound : src.exists? p with
      | .error cause =>
        rw [hfound] at h
        cases h
        exact .inl ⟨cause, rfl, rfl⟩
      | .ok false => exact absurd hfound hthere
      | .ok true =>
        rw [hfound] at h
        refine .inr ⟨rfl, ?_⟩
        rcases hread : src.read p with f | content
        · rw [readFile, hread] at h
          cases h
          cases hreported
        · exact ⟨content, rfl, (breaks_iff hread).1 ⟨h, hreported⟩⟩
    · rw [loadFrom_of_absent habsent] at h
      split at h
      · cases h
        cases hreported
      · cases h
  · rintro ⟨p, hmeets, ⟨cause, hfound, rfl⟩ | ⟨hthere, content, hread, hbreaks⟩⟩
    · rw [loadFrom_of_meets hmeets (by simp [hfound]), hfound]
      exact ⟨rfl, rfl⟩
    · rw [loadFrom_of_meets hmeets (by simp [hthere]), hthere]
      exact (breaks_iff hread).2 hbreaks

/-- On files, a path cannot be looked up just if something on the way is too long. -/
theorem lookup_ofFiles_iff {cause : Error} :
    (Source.ofFiles files).exists? p = .error cause ↔
      files.find p = .error .nameTooLong ∧
        cause = .fault { refusal := .nameTooLong, path := p.text } := by
  rcases hfound : files.exists? p with f | b
  · have hlookup : (Source.ofFiles files).exists? p = .error (.fault f) := by
      simp only [Source.ofFiles, hfound]
    obtain ⟨hfind, rfl⟩ := FileTree.exists?_eq_error_iff.1 hfound
    rw [hlookup]
    exact ⟨fun h => ⟨hfind, (Except.error.inj h).symm⟩, fun h => congrArg Except.error h.2.symm⟩
  · have hlookup : (Source.ofFiles files).exists? p = .ok b := by
      simp only [Source.ofFiles, hfound]
    rw [hlookup]
    refine iff_of_false (by simp) fun h => ?_
    have herror := FileTree.exists?_eq_error_iff.2 ⟨h.1, rfl⟩
    rw [hfound] at herror
    cases herror

/-- A project whose options are written in an encoding of eight bits. -/
def latinProject : FileTree where
  items := [(["use-golang.yaml".toList],
    ⟨.file [0x62, 0x61, 0x73, 0x65, 0x3A, 0x20, 0xE9], 0⟩)]

/-- The bytes of its options can be read, and the failure is not reported. -/
theorem load_latinProject :
    latinProject.read ((Path.ofNames []).child "use-golang.yaml") =
        .ok [0x62, 0x61, 0x73, 0x65, 0x3A, 0x20, 0xE9] ∧
      ∃ e, load latinProject none (Path.ofNames []) = .error e ∧ e.isReported = false :=
  ⟨by cbv, .unforeseen .notText, by cbv, rfl⟩

/-! ## §4 Safe texts -/

/-- What the reader of a format does not foresee stands in the text. -/
inductive Warns (p : Path) (s : Text) : Prop
  | jsonNumber {n : Nat} (hp : p.ending = ".json".toList) (hn : Json.digitLimit < n)
      (h : Json.HasDigits n s)
  | jsonDepth (hp : p.ending = ".json".toList) (h : Json.nestingLimit < Json.openings s)
  | yamlEscape (hp : p.ending ≠ ".json".toList) (h : Yaml.HasVoidEscape s)
  | yamlDigit (hp : p.ending ≠ ".json".toList) (h : Yaml.HasDigit s)
  | yamlDepth (hp : p.ending ≠ ".json".toList)
      (h : Yaml.nestingLimit < Yaml.openings (Yaml.tokens s))

theorem Warns.of_yaml {problem : Yaml.Problem} (hp : p.ending ≠ ".json".toList) {s : Text}
    (h : Yaml.read s = .error problem) (hmarked : ¬ problem.IsMarked)
    (hacceptable : ∀ c i, problem ≠ .unacceptable c i) : Warns p s := by
  rcases (Yaml.tells_of_read h).inText with hm | ⟨c, i, hc⟩ | hescape | hdigit | hdepth
  · exact absurd hm hmarked
  · exact absurd hc (hacceptable c i)
  · exact .yamlEscape hp hescape
  · exact .yamlDigit hp hdigit
  · exact .yamlDepth hp hdepth

/-- The reader of YAML that fails in a way of its own on a text has been warned. -/
theorem Warns.of_readYaml {content : Bytes} {s : Text} {cause : Error}
    (hp : p.ending ≠ ".json".toList) (hs : textOf? content = some s)
    (h : readYaml p.text content = .error (.other cause)) : Warns p s := by
  obtain ⟨shown, hdecode, rfl⟩ := Option.map_eq_some_iff.1 hs
  rw [readYaml, hdecode] at h
  dsimp only at h
  split at h <;> cases h
  all_goals
    next hread => exact .of_yaml hp hread id fun _ _ h => nomatch h

/-- The contents of a file break only for what can be seen in its text, or for a name that is no text;
and there are no such names in JSON. -/
theorem isReported_of_safe {content : Bytes} {s : Text} {e : Failure}
    (hmeets : Meets (.ofFiles files) (candidates named root) p) (hread : files.read p = .ok content)
    (hs : textOf? content = some s) (hsafe : ¬ Warns p s) (h : load files named root = .error e) :
    e.isReported = true ∨ e = .nameNotText ∧ p.ending ≠ ".json".toList := by
  have hthere : (Source.ofFiles files).exists? p = .ok true := by
    simp only [Source.ofFiles, FileTree.exists?_of_read hread]
  rw [load, loadFrom_of_meets hmeets (by simp [hthere]), hthere] at h
  cases hreported : e.isReported with
  | true => exact .inl rfl
  | false =>
    cases (breaks_iff hread).1 ⟨h, hreported⟩ with
    | jsonBytes _ hnone => cases hnone.symm.trans hs
    | jsonNumber hp hs' hjson =>
      cases hs'.symm.trans hs
      obtain ⟨hn, hdigits⟩ := Json.tells_of_readNested hjson
      exact absurd (.jsonNumber hp hn hdigits) hsafe
    | jsonDepth hp hs' hjson =>
      cases hs'.symm.trans hs
      exact absurd (.jsonDepth hp (Json.tells_of_readNested hjson)) hsafe
    | yaml hp hyaml => exact absurd (.of_readYaml hp hs hyaml) hsafe
    | @key found hbytes =>
      refine .inr ⟨rfl, fun hp => ?_⟩
      rw [readBytes_json hp, hs] at hbytes
      dsimp only at hbytes
      unfold readJson at hbytes
      split at hbytes
      · next v hjson =>
        obtain ⟨entries, rfl, entry, hentry, hstring⟩ :=
          Document.exists_of_ofValue (Except.ok.inj hbytes)
        have hnamed : Json.IsNamed (.map entries) := Json.isNamed_of_readNested hjson
        rw [hnamed entry hentry] at hstring
        cases hstring
      all_goals cases hbytes

end Config
end EmbeddedGo
