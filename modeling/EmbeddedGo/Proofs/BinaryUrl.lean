/-
EmbeddedGo.Proofs.BinaryUrl — where the URL of a module's binary leads.

A transform runs the compiler once, and tells it to write one file; the code that it gives refers to a
URL. The URL is written with few characters, so it stands in a literal as it is and is found there
whole. Decoded it is an id again, whatever the slot and the file are called, and for the slot of a
module that id stands for the file that the compiler was told to write.

  §1 what a transform runs
  §2 the URL
-/
import EmbeddedGo.Proofs.Chunk

namespace EmbeddedGo

/-! ## §1 Runs -/

namespace Transform

open Host

variable {s : Settings}

/-- A compilation that succeeds is one run. -/
theorem runs_of_compile {j : Job} {h h' : Host} {warnings : List Text}
    (hrun : (compile s j).run.run h = (.ok warnings, h')) :
    h'.runs = h.runs ++ [s.compiler.buildWords j.goFile.text j.wasmFile.text] := by
  obtain ⟨a, h₁, ha, hrun⟩ := run_bind_ok hrun
  have hlast : h' = h₁ := by
    split at hrun
    · cases hrun
      rfl
    · cases hrun
  rw [s.compiler.run_run] at ha
  split at ha
  · cases ha
  · cases ha
  · cases ha
    rw [hlast]
    rfl

/-- What is written besides is no run. -/
theorem runs_of_writeText {p : Path} {content : Text} {h h' : Host} {outcome : Except Error Unit}
    (hrun : (writeText p content).run.run h = (outcome, h')) : h'.runs = h.runs := by
  rw [writeText, writeBytes, run_change] at hrun
  split at hrun <;> cases hrun <;> rfl

/-- A transform that succeeds has run the compiler once, for the files of its own slot. -/
theorem runs_of_transform {code id : Text} {h h' : Host} {r : Result}
    (hrun : (transform s code id).run.run h = (.ok (some r), h')) :
    r.slot = Slot.name id ∧
      r.wasmFile = (s.buildRoot.child (Slot.name id)).child Wrapper.wasmName ∧
      h'.runs = h.runs ++ [s.compiler.buildWords
        ((s.buildRoot.child (Slot.name id)).child BuildRoot.goName).text r.wasmFile.text] := by
  obtain ⟨unit, warnings, h₁, h₂, h₃, hunit, hprepare, hwrite, hcompile, hdecl, rfl⟩ :=
    phases_of_build (build_of_transform hrun)
  refine ⟨rfl, rfl, ?_⟩
  have hprepared : h₁.runs = h.runs := by
    rw [run_prepare, hunit] at hprepare
    dsimp only at hprepare
    split at hprepare <;> cases hprepare
    rfl
  have hdeclared : h'.runs = h₃.runs := by
    unfold writeDeclarations at hdecl
    split at hdecl
    · exact runs_of_writeText hdecl
    · cases hdecl
      rfl
  rw [hdeclared, runs_of_compile hcompile, runs_of_writeText hwrite, hprepared]
  rfl

end Transform

/-! ## §2 URLs -/

namespace VirtualId

/-- A URL is found whole between quotes of either kind. -/
theorem reference?_artifactUrl {quote : Char} (hq : Bundle.isQuote quote = true)
    (slot file rest : Text) :
    Bundle.reference? (quote :: (artifactUrl slot file ++ quote :: rest)) =
      some (⟨quote, artifactUrl slot file⟩, rest) := by
  have hne : urlName slot file ≠ [] := by simp [urlName]
  rw [artifactUrl_eq]
  exact Bundle.reference?_quoted hq hne
    (fun _ hc => isReferenceChar_of_isUrlChar (isUrlChar_of_mem_urlName hc)) rest

/-- The URL of a file in a slot is safe, and stands for the file's id. That of the binary in the slot
of a module leads, whatever the build root is, to the file that a transform of the module has the
compiler write. -/
theorem artifactUrl_leads (slot file : Text) :
    Percent.decode (artifactUrl slot file) = artifact slot file ∧
      (∀ c ∈ artifactUrl slot file, isUrlChar c = true) ∧
      (∀ asciiOnly, Json.literal asciiOnly (artifactUrl slot file) =
        '"' :: artifactUrl slot file ++ ['"']) ∧
      (∀ quote rest, Bundle.isQuote quote = true →
        Bundle.reference? (quote :: (artifactUrl slot file ++ quote :: rest)) =
          some (⟨quote, artifactUrl slot file⟩, rest)) ∧
      (∀ buildRoot module,
        resolve buildRoot (Percent.decode (artifactUrl (Slot.name module) Wrapper.wasmName)) =
          some (.file ((buildRoot.child (Slot.name module)).child Wrapper.wasmName))) ∧
      ∀ (s : Transform.Settings) (code module : Text) (h h' : Host) (r : Transform.Result),
        (Transform.transform s code module).run.run h = (.ok (some r), h') →
          r.slot = Slot.name module ∧
            r.wasmFile = (s.buildRoot.child (Slot.name module)).child Wrapper.wasmName ∧
            h'.runs = h.runs ++ [s.compiler.buildWords
              ((s.buildRoot.child (Slot.name module)).child BuildRoot.goName).text
              r.wasmFile.text] := by
  refine ⟨decode_artifactUrl slot file, fun _ => isUrlChar_of_mem_artifactUrl, fun _ => ?_,
    fun quote rest hq => reference?_artifactUrl hq slot file rest, fun buildRoot module => ?_,
    fun s code module h h' r hrun => Transform.runs_of_transform hrun⟩
  · exact Json.literal_of_isUrlChar fun _ => isUrlChar_of_mem_artifactUrl
  · rw [decode_artifactUrl]
    exact resolve_artifact buildRoot (Slot.isPlain_name module) Transform.isPlain_wasmName (by decide)

/-- A module whose name holds a quote and a percent sign. -/
theorem artifactUrl_leads_tool :
    Bundle.isQuote '\'' = true ∧
      Bundle.reference? ('\'' :: (artifactUrl "\"%_511842a9" "main.wasm" ++ '\'' :: ['x'])) =
        some (⟨'\'', artifactUrl "\"%_511842a9" "main.wasm"⟩, ['x']) ∧
      ∃ r h', (Transform.transform Plugin.toolPlugin.settings "\"use golang\"\nA" "/\"%").run.run
          (Plugin.toolHost []) = (.ok (some r), h') ∧
        r.slot = Slot.name "/\"%" ∧
        h'.runs = (Plugin.toolHost []).runs ++ [Plugin.toolPlugin.settings.compiler.buildWords
          ((Plugin.toolPlugin.settings.buildRoot.child (Slot.name "/\"%")).child
            BuildRoot.goName).text r.wasmFile.text] := by
  obtain ⟨-, -, -, hfound, -, hruns⟩ := artifactUrl_leads "\"%_511842a9" "main.wasm"
  obtain ⟨r, h', hrun⟩ := Plugin.run_transform_tool
  obtain ⟨hslot, -, hrun'⟩ := hruns _ _ _ _ _ _ hrun
  exact ⟨rfl, hfound _ _ rfl, r, h', hrun, hslot, hrun'⟩

end VirtualId
end EmbeddedGo
