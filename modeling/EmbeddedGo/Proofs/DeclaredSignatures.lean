/-
EmbeddedGo.Proofs.DeclaredSignatures — how much of its functions a declaration file tells.

Two lists of functions have one declaration file exactly if TypeScript cannot tell them apart: they are
equally long, and at each place there are functions of one name whose parameters have the same names, and
whose types and results are the same once they have their TypeScript names (`render_eq_iff`). Which of the
Go types behind one TypeScript name it was is not told.

That the file tells so much follows from what cannot stand in its parts. No line holds a line feed, no
name a bracket, a comma or a colon, so a file is cut into its lines, and a line into its names and types,
in one way.

  §1 functions that look the same
  §2 cutting at a mark
  §3 the line of a function
  §4 files
-/
import EmbeddedGo.Proofs.DeclarationNames

namespace EmbeddedGo.Declarations

open Text Go

/-! ## §1 Functions -/

/-- Functions that look the same to TypeScript. -/
structure Alike (f g : Function) : Prop where
  name : f.name = g.name
  parameterNames : f.parameterNames = g.parameterNames
  types : f.params.map (fun p => typeName p.type) = g.params.map (fun p => typeName p.type)
  result : typeOf f.result = typeOf g.result

instance (f g : Function) : Decidable (Alike f g) :=
  decidable_of_iff
    (f.name = g.name ∧ f.parameterNames = g.parameterNames ∧
      f.params.map (fun p => typeName p.type) = g.params.map (fun p => typeName p.type) ∧
      typeOf f.result = typeOf g.result)
    ⟨fun h => ⟨h.1, h.2.1, h.2.2.1, h.2.2.2⟩,
      fun h => ⟨h.name, h.parameterNames, h.types, h.result⟩⟩

/-! ## §2 Marks -/

/-- A text is cut at the first mark in one way. -/
theorem cut_inj {mark : Char} {a b s t : Text} (ha : mark ∉ a) (hb : mark ∉ b)
    (h : a ++ mark :: s = b ++ mark :: t) : a = b ∧ s = t := by
  have hleft : upTo? mark (a ++ mark :: s) = some (a, s) := upTo?_eq_some_iff.2 ⟨rfl, ha⟩
  have hright : upTo? mark (b ++ mark :: t) = some (b, t) := upTo?_eq_some_iff.2 ⟨rfl, hb⟩
  rw [h, hright] at hleft
  obtain ⟨rfl, rfl⟩ := Prod.mk.inj (Option.some.inj hleft)
  exact ⟨rfl, rfl⟩

/-- What was joined with commas is told apart by its pieces, if none of them is empty. -/
theorem join_comma_inj {ps qs : List Text} (hps : ∀ p ∈ ps, p ≠ [] ∧ ',' ∉ p)
    (hqs : ∀ q ∈ qs, q ≠ [] ∧ ',' ∉ q) (h : Text.join ", " ps = Text.join ", " qs) : ps = qs := by
  have hpieces : ∀ {a : Text} {rest : List Text}, (∀ p ∈ a :: rest, p ≠ [] ∧ ',' ∉ p) →
      splitOn ',' (Text.join ", " (a :: rest)) = a :: rest.map (' ' :: ·) := by
    intro a rest hall
    rw [join_comma]
    refine splitOn_join (by simp) fun piece hpiece => ?_
    rcases List.mem_cons.1 hpiece with rfl | hpiece
    · exact (hall _ (by simp)).2
    · obtain ⟨p, hp, rfl⟩ := List.mem_map.1 hpiece
      rw [List.mem_cons, not_or]
      exact ⟨by decide, (hall p (by simp [hp])).2⟩
  have hnonempty : ∀ {a : Text} {rest : List Text}, a ≠ [] → Text.join ", " (a :: rest) ≠ [] := by
    intro a rest ha
    cases rest with
    | nil => simpa [Text.join] using ha
    | cons b rest =>
      rw [join_cons_cons]
      simp [ha]
  cases ps with
  | nil =>
    cases qs with
    | nil => rfl
    | cons q qs => exact absurd h.symm (hnonempty (hqs q (by simp)).1)
  | cons p ps =>
    cases qs with
    | nil => exact absurd h (hnonempty (hps p (by simp)).1)
    | cons q qs =>
      have hsplit := congrArg (splitOn ',') h
      rw [hpieces hps, hpieces hqs] at hsplit
      obtain ⟨rfl, hrest⟩ := List.cons.inj hsplit
      rw [List.map_inj_right fun a b hab => (List.cons.inj hab).2] at hrest
      rw [hrest]

/-! ## §3 Lines -/

variable {f g : Function}

/-- The line of a function around its brackets. -/
theorem functionLine_eq (f : Function) : functionLine f = "export function ".toList ++ (f.name ++ '(' ::
    (Text.join ", " (f.params.map parameter) ++ ')' :: (": " ++ typeOf f.result ++ ";"))) := by
  unfold functionLine
  simp only [List.append_assoc]
  rfl

/-- The line of a function depends on what TypeScript sees of it. -/
theorem Alike.lines (h : Alike f g) : functionLine f = functionLine g ∧ memberLine f = memberLine g := by
  have hwritten : ∀ k : Function, k.params.map parameter =
      List.zipWith (fun name type : Text => name ++ ": " ++ type) k.parameterNames
        (k.params.map fun p => typeName p.type) := by
    intro k
    rw [show k.parameterNames = k.params.map Parameter.name from rfl, List.zipWith_map,
      List.zipWith_self]
    rfl
  have hparameters : f.params.map parameter = g.params.map parameter := by
    rw [hwritten, hwritten, h.parameterNames, h.types]
  constructor
  · rw [functionLine_eq, functionLine_eq, h.name, hparameters, h.result]
  · unfold memberLine
    rw [h.name]

/-- A parameter is cut at its colon. -/
theorem upTo_colon {p : Parameter} (h : isIdentifier p.name = true) :
    upTo? ':' (parameter p) = some (p.name, ' ' :: typeName p.type) :=
  upTo?_eq_some_iff.2 ⟨by simp [parameter], not_mem_identifier h (by decide)⟩

/-- Parameters that are declared alike have the same names and types. -/
theorem parameters_inj {ps qs : List Parameter} (hps : ∀ p ∈ ps, isIdentifier p.name = true)
    (hqs : ∀ q ∈ qs, isIdentifier q.name = true) (h : ps.map parameter = qs.map parameter) :
    ps.map Parameter.name = qs.map Parameter.name ∧
      ps.map (fun p => typeName p.type) = qs.map fun p => typeName p.type := by
  have hcut : ∀ rs : List Parameter, (∀ r ∈ rs, isIdentifier r.name = true) →
      (rs.map parameter).map (upTo? ':') =
        (rs.map fun r => (r.name, ' ' :: typeName r.type)).map some := by
    intro rs hrs
    rw [List.map_map, List.map_map]
    exact List.map_congr_left fun r hr => upTo_colon (hrs r hr)
  have hpairs := congrArg (List.map (upTo? ':')) h
  rw [hcut ps hps, hcut qs hqs, List.map_inj_right fun a b hab => Option.some.inj hab] at hpairs
  have hnames := congrArg (List.map Prod.fst) hpairs
  have htypes := congrArg (List.map fun pair => pair.2.drop 1) hpairs
  simp only [List.map_map] at hnames htypes
  exact ⟨hnames, htypes⟩

/-- Functions with one line look the same. -/
theorem alike_of_functionLine (hf : IsNamed f) (hg : IsNamed g)
    (h : functionLine f = functionLine g) : Alike f g := by
  have hlisted : ∀ k : Function, IsNamed k → ')' ∉ Text.join ", " (k.params.map parameter) :=
    fun k hk => not_mem_parameters hk.parameters (by decide) (by decide) (by decide)
  have hpieces : ∀ k : Function, IsNamed k → ∀ piece ∈ k.params.map parameter,
      piece ≠ [] ∧ ',' ∉ piece := by
    intro k hk piece hpiece
    obtain ⟨p, hp, rfl⟩ := List.mem_map.1 hpiece
    exact ⟨by simp [parameter], not_mem_parameter (hk.parameters p hp) (by decide) (by decide)⟩
  rw [functionLine_eq, functionLine_eq] at h
  obtain ⟨hname, hrest⟩ := cut_inj (not_mem_identifier hf.name (by decide))
    (not_mem_identifier hg.name (by decide)) (List.append_cancel_left h)
  obtain ⟨hjoined, hbehind⟩ := cut_inj (hlisted f hf) (hlisted g hg) hrest
  obtain ⟨hnames, htypes⟩ := parameters_inj hf.parameters hg.parameters
    (join_comma_inj (hpieces f hf) (hpieces g hg) hjoined)
  exact {
    name := hname
    parameterNames := hnames
    types := htypes
    result := List.append_cancel_left (List.append_cancel_right hbehind) }

/-! ## §4 Files -/

variable {fs gs : List Function}

/-- The lines of a file without functions. -/
theorem splitOn_render_nil : splitOn '\n' (render []) =
    ["// Generated by use-golang. Do not edit.".toList, [], "export default any;".toList, []] := by
  decide

/-- A file has two lines for each function, and nine others, if there is a function at all. -/
theorem length_splitOn_render (h : ∀ f ∈ fs, IsNamed f) :
    (splitOn '\n' (render fs)).length = if fs = [] then 4 else 2 * fs.length + 7 := by
  split
  · next hnil => rw [hnil, splitOn_render_nil]; rfl
  · next hne =>
    rw [splitOn_render hne h]
    simp only [List.length_append, List.length_map, List.length_cons, List.length_nil]
    omega

/-- Files that are the same have the same lines for functions. -/
theorem map_functionLine_of_render (hfs : ∀ f ∈ fs, IsNamed f) (hgs : ∀ g ∈ gs, IsNamed g)
    (h : render fs = render gs) : fs.map functionLine = gs.map functionLine := by
  have hlength : (splitOn '\n' (render fs)).length = (splitOn '\n' (render gs)).length := by rw [h]
  rw [length_splitOn_render hfs, length_splitOn_render hgs] at hlength
  by_cases hf : fs = []
  · by_cases hg : gs = []
    · rw [hf, hg]
    · rw [if_pos hf, if_neg hg] at hlength
      omega
  · by_cases hg : gs = []
    · rw [if_neg hf, if_pos hg] at hlength
      omega
    · rw [if_neg hf, if_neg hg] at hlength
      have hlines := congrArg (splitOn '\n') h
      rw [splitOn_render hf hfs, splitOn_render hg hgs] at hlines
      simp only [List.append_assoc] at hlines
      have hsize : (fs.map functionLine).length = (gs.map functionLine).length := by
        rw [List.length_map, List.length_map]
        omega
      exact (List.append_inj (List.append_cancel_left hlines) hsize).1

/-- Lists of functions have one declaration file exactly if they are equally long and the functions at
each place look the same. -/
theorem render_eq_iff (hfs : ∀ f ∈ fs, IsNamed f) (hgs : ∀ g ∈ gs, IsNamed g) :
    render fs = render gs ↔ fs.length = gs.length ∧
      ∀ i (hf : i < fs.length) (hg : i < gs.length), Alike fs[i] gs[i] := by
  constructor
  · intro h
    have hlines := map_functionLine_of_render hfs hgs h
    have hlength : fs.length = gs.length := by
      have := congrArg List.length hlines
      rwa [List.length_map, List.length_map] at this
    refine ⟨hlength, fun i hf hg => ?_⟩
    have hline := congrArg (fun ls => ls[i]?) hlines
    simp only [List.getElem?_map, List.getElem?_eq_getElem hf, List.getElem?_eq_getElem hg,
      Option.map_some, Option.some.injEq] at hline
    exact alike_of_functionLine (hfs _ (List.getElem_mem hf)) (hgs _ (List.getElem_mem hg)) hline
  · rintro ⟨hlength, halike⟩
    have hfunctions : fs.map functionLine = gs.map functionLine :=
      List.ext_getElem (by simp [hlength]) fun i hf hg => by
        rw [List.getElem_map, List.getElem_map]
        exact (halike i (by simpa using hf) (by simpa using hg)).lines.1
    have hmembers : fs.map memberLine = gs.map memberLine :=
      List.ext_getElem (by simp [hlength]) fun i hf hg => by
        rw [List.getElem_map, List.getElem_map]
        exact (halike i (by simpa using hf) (by simpa using hg)).lines.2
    have hempty : fs.isEmpty = gs.isEmpty := by
      rw [Bool.eq_iff_iff, List.isEmpty_iff_length_eq_zero, List.isEmpty_iff_length_eq_zero, hlength]
    have hbody : body fs = body gs := by
      unfold body
      rw [hfunctions, hmembers, hempty]
    unfold render
    rw [hbody]

/-- Two widths of one number, and an absent type, look the same; without a function there is another
file. -/
theorem render_eq_iff_widths :
    render [⟨"f", [⟨"a", "int8"⟩], none⟩] = render [⟨"f", [⟨"a", "rune"⟩], some []⟩] ∧
      render [⟨"any", [], none⟩] ≠ render [] := by
  have hnarrow : ∀ f ∈ [(⟨"f", [⟨"a", "int8"⟩], none⟩ : Function)], IsNamed f := by
    simp only [List.forall_mem_singleton]
    exact ⟨by decide, by decide⟩
  have hwide : ∀ f ∈ [(⟨"f", [⟨"a", "rune"⟩], some []⟩ : Function)], IsNamed f := by
    simp only [List.forall_mem_singleton]
    exact ⟨by decide, by decide⟩
  have hany : ∀ f ∈ [(⟨"any", [], none⟩ : Function)], IsNamed f := by
    simp only [List.forall_mem_singleton]
    exact ⟨by decide, by decide⟩
  refine ⟨(render_eq_iff hnarrow hwide).2 ⟨rfl, fun i hf hg => ?_⟩, fun h => ?_⟩
  · obtain rfl : i = 0 := by simpa using hf
    show Alike ⟨"f", [⟨"a", "int8"⟩], none⟩ ⟨"f", [⟨"a", "rune"⟩], some []⟩
    decide
  · have hlength := ((render_eq_iff hany (by simp)).1 h).1
    simp at hlength

end EmbeddedGo.Declarations
