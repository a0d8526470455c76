/-
EmbeddedGo.Proofs.Endings — how computations end that can fail.

Readers are computations of this kind: each is put together from smaller ones, and a failure of a part
is the failure of the whole. So it is enough to say of each part what its values and its failures are
like (`Ends`), and the whole is like that too.

  §1 one computation after the other
  §2 one computation for each entry of a list
-/
import EmbeddedGo.Text.Basic

namespace EmbeddedGo

variable {ε α β : Type} {E E' : ε → Prop} {P P' : α → Prop} {Q : β → Prop} {x y : Except ε α}

/-! ## §1 Computations -/

/-- A computation comes to a value of one kind, or to a failure of another kind. -/
def Ends (E : ε → Prop) (P : α → Prop) : Except ε α → Prop
  | .ok a => P a
  | .error e => E e

theorem Ends.mono (hx : Ends E P x) (hE : ∀ e, E e → E' e) (hP : ∀ a, P a → P' a) :
    Ends E' P' x :=
  match x, hx with
  | .ok a, ha => hP a ha
  | .error e, he => hE e he

theorem Ends.pure {a : α} (h : P a) : Ends E P (Pure.pure a) := h

theorem Ends.bind {f : α → Except ε β} (hx : Ends E P x) (hf : ∀ a, P a → Ends E Q (f a)) :
    Ends E Q (x >>= f) :=
  match x, hx with
  | .ok a, ha => hf a ha
  | .error _, he => he

theorem Ends.map {f : α → β} (hx : Ends E P x) (hf : ∀ a, P a → Q (f a)) : Ends E Q (x.map f) :=
  match x, hx with
  | .ok a, ha => hf a ha
  | .error _, he => he

theorem ends_ite {c : Prop} [Decidable c] (hx : Ends E P x) (hy : Ends E P y) :
    Ends E P (if c then x else y) := by
  split
  · exact hx
  · exact hy

theorem Ends.of_error {e : ε} (h : Ends E P x) (hx : x = .error e) : E e := by
  rwa [hx] at h

/-! ## §2 Lists -/

/-- What goes for each entry of a list goes for all of them, and a failure is that of one entry. -/
theorem ends_mapM {f : α → Except ε β} {as : List α} (hf : ∀ a ∈ as, Ends E Q (f a)) :
    Ends E (fun bs => ∀ b ∈ bs, Q b) (as.mapM f) := by
  induction as with
  | nil => exact fun b hb => nomatch hb
  | cons a as ih =>
    rw [List.mapM_cons]
    refine (hf a (List.mem_cons_self ..)).bind fun b hb => ?_
    refine (ih fun a' ha' => hf a' (List.mem_cons_of_mem _ ha')).bind fun bs hbs => ?_
    exact .pure (by simpa using ⟨hb, hbs⟩)

end EmbeddedGo
