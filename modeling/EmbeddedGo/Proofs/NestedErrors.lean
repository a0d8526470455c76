/-
EmbeddedGo.Proofs.NestedErrors — the words of failures inside of failures.

The failure of a module keeps its cause, which may be the failure of a module again. The words of the
outermost are one tag, the modules from the outside to the inside, and the words of the innermost cause
without a tag of their own (`message_under`). They hold no tags but this one and those that the names of
the modules and the rest of the cause have in themselves.

  §1 chains of failures
  §2 words without a tag
  §3 the words of a chain
  §4 how many tags they hold
-/
import Mathlib.Algebra.Ring.Nat
import EmbeddedGo.Proofs.Reference
import EmbeddedGo.Proofs.Trimming

namespace EmbeddedGo.Error

open Text

/-! ## §1 Chains -/

/-- A cause inside of failures of modules, the outermost first. -/
def under (ids : List Text) (cause : Error) : Error := ids.foldr transform cause

@[simp] theorem under_cons (id : Text) (ids : List Text) (cause : Error) :
    under (id :: ids) cause = transform id (under ids cause) := rfl

/-- The words for one module. -/
def failed (id : Text) : Text := "Failed to process " ++ id ++ ": "

/-- What is left of the words of a cause: all of them, unless they begin with the tag; then it goes with
all blanks behind it. -/
inductive Untags : Text → Text → Prop where
  | plain {words : Text} (h : ¬ tag <+: words) : Untags words words
  | tagged {blanks rest : Text} (hblanks : blanks.all isBlank = true)
    (hrest : ∀ c, rest.head? = some c → isBlank c = false) : Untags (tag ++ blanks ++ rest) rest

/-- How many tags a text holds. -/
def tagCount : Text → Nat
  | [] => 0
  | c :: s => tagCount s + if startsWith (c :: s) tag then 1 else 0

/-! ## §2 Words without a tag -/

variable {s words rest : Text}

theorem untagged_append (s : Text) : untagged (tag ++ s) = trimStart s := by
  rw [untagged, after?_append]

theorem untagged_plain (h : ¬ tag <+: words) : untagged words = words := by
  have hnone : after? tag words = none := by
    rwa [← startsWith_iff, startsWith, Option.not_isSome_iff_eq_none] at h
  rw [untagged, hnone]

/-- What is left of words without their tag is one text. -/
theorem untagged_eq_iff : untagged words = rest ↔ Untags words rest := by
  constructor
  · rintro rfl
    by_cases htag : tag <+: words
    · obtain ⟨s, rfl⟩ := htag
      obtain ⟨blanks, hblanks, hs⟩ := exists_trimStart s
      have huntags : Untags (tag ++ blanks ++ trimStart s) (trimStart s) :=
        .tagged hblanks fun c hc => isBlank_of_head?_trimStart hc
      rwa [List.append_assoc, ← hs, ← untagged_append] at huntags
    · rw [untagged_plain htag]
      exact .plain htag
  · intro h
    cases h with
    | plain h => exact untagged_plain h
    | @tagged blanks rest hblanks hrest =>
      rw [List.append_assoc, untagged_append]
      cases rest with
      | nil => rw [List.append_nil, trimStart_eq_nil hblanks]
      | cons c rest => exact trimStart_append hblanks (hrest c rfl) rest

/-! ## §3 Chains -/

/-- The words for a module do not begin with the tag, so they get one. -/
theorem message_transform (id : Text) (cause : Error) :
    (transform id cause).message = tag ++ " " ++ (failed id ++ untagged cause.message) := by
  have hmessage : (transform id cause).message = tagged (failed id ++ untagged cause.message) := rfl
  have hplain : startsWith (failed id ++ untagged cause.message) tag = false := rfl
  rw [hmessage, tagged, hplain, if_neg Bool.false_ne_true]

/-- What a failure of a module puts in front of its words is all taken off again, and no more. -/
theorem untagged_message_transform (id : Text) (cause : Error) :
    untagged (transform id cause).message = failed id ++ untagged cause.message := by
  have hspace : (" " : Text).all isBlank = true := by decide
  have hhead : failed id ++ untagged cause.message =
      'F' :: ("ailed to process ".toList ++ id ++ ": ".toList ++ untagged cause.message) := rfl
  rw [message_transform, List.append_assoc, untagged_append, hhead]
  exact trimStart_append hspace (by decide) _

theorem untagged_message_under (ids : List Text) (cause : Error) :
    untagged (under ids cause).message = ids.flatMap failed ++ untagged cause.message := by
  induction ids with
  | nil => rfl
  | cons id ids ih =>
    rw [under_cons, untagged_message_transform, ih, List.flatMap_cons, List.append_assoc]

/-! ## §4 Tags -/

theorem startsWith_append_cons {start : Text} {c : Char} (hc : c ∉ start) (s t : Text) :
    startsWith (s ++ c :: t) start = startsWith s start := by
  rw [Bool.eq_iff_iff, startsWith_iff, startsWith_iff]
  exact ⟨Bundle.prefix_of_prefix_append_cons hc, fun h => h.trans (List.prefix_append s _)⟩

theorem tagCount_cons (c : Char) (s : Text) :
    tagCount (c :: s) = tagCount s + if startsWith (c :: s) tag then 1 else 0 := rfl

/-- No tag reaches over a character that it does not hold. -/
theorem tagCount_append_cons {c : Char} (hc : c ∉ tag) (s t : Text) :
    tagCount (s ++ c :: t) = tagCount s + tagCount (c :: t) := by
  induction s with
  | nil => rw [List.nil_append, tagCount, Nat.zero_add]
  | cons d s ih =>
    have hstart := startsWith_append_cons hc (d :: s) t
    rw [List.cons_append] at hstart
    rw [List.cons_append, tagCount_cons, tagCount_cons d s, hstart, ih]
    omega

/-- Where no bracket opens, no tag begins. -/
theorem tagCount_append (hs : '[' ∉ s) (t : Text) : tagCount (s ++ t) = tagCount t := by
  induction s with
  | nil => rfl
  | cons c s ih =>
    rw [List.mem_cons, not_or] at hs
    have hplain : ¬ startsWith (c :: (s ++ t)) tag = true := by
      rw [startsWith_iff]
      rintro ⟨u, h⟩
      exact hs.1 (List.cons.inj h).1
    rw [List.cons_append, tagCount_cons, if_neg hplain, ih hs.2, Nat.add_zero]

theorem tagCount_failed_append (id s : Text) :
    tagCount (failed id ++ s) = tagCount id + tagCount s := by
  have hsplit : failed id ++ s = "Failed to process ".toList ++ (id ++ (": ".toList ++ s)) := by
    unfold failed
    simp only [List.append_assoc]
  have hmarks : tagCount (':' :: ' ' :: s) = tagCount s :=
    tagCount_append (s := [':', ' ']) (by decide) s
  calc tagCount (failed id ++ s)
      = tagCount ("Failed to process ".toList ++ (id ++ (": ".toList ++ s))) := congrArg _ hsplit
    _ = tagCount (id ++ ':' :: ' ' :: s) := tagCount_append (by decide) _
    _ = tagCount id + tagCount (':' :: ' ' :: s) := tagCount_append_cons (by decide) id _
    _ = tagCount id + tagCount s := congrArg _ hmarks

theorem tagCount_flatMap_failed_append (ids : List Text) (s : Text) :
    tagCount (ids.flatMap failed ++ s) = (ids.map tagCount).sum + tagCount s := by
  induction ids with
  | nil => simp
  | cons id ids ih =>
    rw [List.flatMap_cons, List.append_assoc, tagCount_failed_append, ih, List.map_cons,
      List.sum_cons, Nat.add_assoc]

theorem tagCount_tag_append (s : Text) : tagCount (tag ++ " " ++ s) = 1 + tagCount s := by
  have hsplit : tag ++ " " ++ s = tag ++ ' ' :: s := by simp
  have hone : tagCount tag = 1 := by decide
  have hspace : tagCount (' ' :: s) = tagCount s := tagCount_append (s := [' ']) (by decide) s
  rw [hsplit, tagCount_append_cons (by decide), hone, hspace]

/-- The words of a chain are one tag, the modules from the outside to the inside, and what is left of the
words of the cause without a tag; the chain puts no other tag there, however long it is and whatever the
cause is. -/
theorem message_under (id : Text) (ids : List Text) (cause : Error) :
    ∃ rest, (∀ r, Untags cause.message r ↔ r = rest) ∧
      (under (id :: ids) cause).message = tag ++ " " ++ ((id :: ids).flatMap failed ++ rest) ∧
      tagCount (under (id :: ids) cause).message =
        1 + ((id :: ids).map tagCount).sum + tagCount rest := by
  have hmessage : (under (id :: ids) cause).message =
      tag ++ " " ++ ((id :: ids).flatMap failed ++ untagged cause.message) := by
    rw [under_cons, message_transform, untagged_message_under, List.flatMap_cons,
      List.append_assoc (failed id)]
  refine ⟨untagged cause.message, fun r => ?_, hmessage, ?_⟩
  · rw [← untagged_eq_iff, eq_comm]
  · rw [hmessage, tagCount_tag_append, tagCount_flatMap_failed_append, Nat.add_assoc]

example : (under ["/a.js".toList, "/b.js".toList] (.foreign "[use-golang]\n\tno memory")).message =
    "[use-golang] Failed to process /a.js: Failed to process /b.js: no memory" := by decide

end EmbeddedGo.Error
