import GroutCni.Effect.Serial

/-!
# Schedules

A schedule says which program goes next and how its operation turns out.  `Config.play`
plays a schedule, and what it computes is an interleaving (`Config.play_sound`).
-/

namespace Effect

open Program

/-- A turn: the program that goes next, the error with which a lock file is refused to it,
if any, and the choice for an operation on the shared state. -/
structure Turn (ι E C : Type) where
  who : ι
  refused : Option E := none
  choice : C

section

variable {ι Path Op E S α C : Type} {Res : Op → Type} [DecidableEq ι] [DecidableEq Path]

namespace Config

/-- The answer to opening a lock file. -/
def opened (t : Turn ι E C) : Except E Unit :=
  match t.refused with
  | none => .ok ()
  | some e => .error e

/-- Play one turn, if it is possible. -/
def playTurn (act : C → S → (o : Op) → Option (Res o × S)) (c : Config ι Path E Res α S)
    (t : Turn ι E C) : Option (Config ι Path E Res α S) :=
  match c.rest t.who with
  | .ret _ => none
  | .call (.openFile _) k => some (c.set t.who (k (opened t)))
  | .call (.acquire path) k =>
      match t.refused with
      | some e => some (c.set t.who (k (.error e)))
      | none =>
          if c.holder path = none then
            some { c.set t.who (k (.ok ())) with
              holder := Function.update c.holder path (some t.who)
              order := c.order ++ [t.who] }
          else none
  | .call (.release path) k => some { c.set t.who (k ()) with holder := c.drop t.who path }
  | .call (.closeFile path) k => some { c.set t.who (k ()) with holder := c.drop t.who path }
  | .call (.op o) k =>
      (act t.choice c.shared o).map fun x => { c.set t.who (k x.1) with shared := x.2 }

/-- Play a schedule. -/
def play (act : C → S → (o : Op) → Option (Res o × S)) (c : Config ι Path E Res α S) :
    List (Turn ι E C) → Option (Config ι Path E Res α S)
  | [] => some c
  | t :: ts => (c.playTurn act t).bind fun c' => c'.play act ts

/-- The value that the program `i` has returned. -/
def value? (c : Config ι Path E Res α S) (i : ι) : Option α :=
  match c.rest i with
  | .ret a => some a
  | .call _ _ => none

omit [DecidableEq ι] [DecidableEq Path] in
theorem rest_of_value? {c : Config ι Path E Res α S} {i : ι} {a : α}
    (h : c.value? i = some a) :
  c.rest i = .ret a
  := by
  unfold value? at h
  split at h
  case h_1 b hb =>
    cases h
    exact hb
  case h_2 => cases h

variable {T : Behaviour Res S} {act : C → S → (o : Op) → Option (Res o × S)}
  {c c' c₀ : Config ι Path E Res α S}

/-- A turn whose choice `T` allows is a step. -/
theorem playTurn_sound (hact : ∀ x s o r s', act x s o = some (r, s') → T s o r s')
    {t : Turn ι E C} (h : c.playTurn act t = some c') :
  Step T c c'
  := by
  unfold playTurn at h
  split at h
  case h_1 => cases h
  case h_2 hrest =>
    cases h
    exact .openFile _ hrest
  case h_3 hrest =>
    split at h
    case h_1 e _ =>
      cases h
      exact .timeout e hrest
    case h_2 =>
      split at h
      case isTrue hfree =>
        cases h
        exact .acquire hrest hfree
      case isFalse => cases h
  case h_4 hrest =>
    cases h
    exact .release hrest
  case h_5 hrest =>
    cases h
    exact .closeFile hrest
  case h_6 hrest =>
    obtain ⟨⟨r, s'⟩, hr, heq⟩ := Option.map_eq_some_iff.mp h
    cases heq
    exact .op hrest (hact _ _ _ _ _ hr)

/-- A schedule whose choices `T` allows plays an interleaving. -/
theorem play_sound (hact : ∀ x s o r s', act x s o = some (r, s') → T s o r s')
    {ts : List (Turn ι E C)} (h : c.play act ts = some c') (hc : Steps T c₀ c) :
  Steps T c₀ c'
  := by
  induction ts generalizing c with
  | nil =>
      cases h
      exact hc
  | cons t ts ih =>
      obtain ⟨c₁, hc₁, h⟩ := Option.bind_eq_some_iff.mp h
      exact ih h (hc.tail (playTurn_sound hact hc₁))

/-- If a schedule ends in a configuration where `check` succeeds, there is an interleaving
that does. -/
theorem play_exists (hact : ∀ x s o r s', act x s o = some (r, s') → T s o r s')
    {ts : List (Turn ι E C)} {check : Config ι Path E Res α S → Bool}
    (h : (c.play act ts).any check = true) :
  ∃ c', Steps T c c' ∧ check c' = true
  := by
  cases hplay : c.play act ts with
  | none => simp [hplay] at h
  | some c' =>
      rw [hplay] at h
      exact ⟨c', play_sound hact hplay (.refl c), h⟩

end Config

end

end Effect
