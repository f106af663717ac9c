import GroutCni.Effect.Fault

/-!
# Programs guarded by a lock file

`guarded path onOpen onAcquire body` opens the lock file `path`, acquires the lock, runs
`body`, releases the lock and closes the file.  When the file cannot be opened or the lock
is not acquired in time it returns an error and does not run `body`.

`Solo T fails` is the behaviour of one such program on its own: it runs its body or
changes nothing (`run_guarded`), and where it is cut short its body may be cut short
(`reach_guarded`).
-/

namespace Effect

open Program

/-- The operations of a signature together with those on lock files. -/
inductive LockOp (Path Op : Type) where
  | openFile (path : Path)
  | acquire (path : Path)
  | release (path : Path)
  | closeFile (path : Path)
  | op (o : Op)

/-- The answers to the operations of `LockOp Path Op`: opening and acquiring may fail. -/
def LockRes (Path E : Type) {Op : Type} (Res : Op → Type) : LockOp Path Op → Type
  | .openFile _ => Except E Unit
  | .acquire _ => Except E Unit
  | .release _ => Unit
  | .closeFile _ => Unit
  | .op o => Res o

section

variable {Path Op E S α : Type} {Res : Op → Type}

/-- A program that does not touch lock files, among programs that may. -/
def lift : Program Res α → Program (LockRes Path E Res) α
  | .ret a => .ret a
  | .call o k => .call (.op o) fun r => lift (k r)

/-- What is left of a guarded program that holds the lock when `q` is left of its body. -/
def inside (path : Path) (q : Program Res α) : Program (LockRes Path E Res) α :=
  lift q >>= fun a => .call (.release path) fun _ => .call (.closeFile path) fun _ => .ret a

/-- What is left of a guarded program that has opened the lock file. -/
def waiting (path : Path) (onAcquire : E → α) (body : Program Res α) :
    Program (LockRes Path E Res) α :=
  .call (.acquire path) fun
    | .error e => .call (.closeFile path) fun _ => .ret (onAcquire e)
    | .ok _ => inside path body

/-- The program `body` guarded by the lock `path`. -/
def guarded (path : Path) (onOpen onAcquire : E → α) (body : Program Res α) :
    Program (LockRes Path E Res) α :=
  .call (.openFile path) fun
    | .error e => .ret (onOpen e)
    | .ok _ => waiting path onAcquire body

/-! ### One guarded program on its own -/

/-- The behaviour of a guarded program on its own: the operations on the lock do not touch
the state, and opening and acquiring may fail if `fails` is set. -/
def Solo (T : Behaviour Res S) (fails : Bool) : Behaviour (LockRes Path E Res) S
  | s, .openFile _, r, s' => s' = s ∧ (fails = true ∨ r = .ok ())
  | s, .acquire _, r, s' => s' = s ∧ (fails = true ∨ r = .ok ())
  | s, .release _, _, s' => s' = s
  | s, .closeFile _, _, s' => s' = s
  | s, .op o, r, s' => T s o r s'

variable {T : Behaviour Res S} {fails : Bool}

theorem run_inside {path : Path} {q : Program Res α} {s s' : S} {a : α} :
  Run (Solo (E := E) T fails) (inside path q) s a s' ↔ Run T q s a s'
  := by
  induction q generalizing s with
  | ret b =>
      constructor
      · intro h
        rcases h with _ | ⟨rfl, h⟩
        rcases h with _ | ⟨rfl, h⟩
        cases h
        apply Run.ret
      · intro h
        cases h
        apply Run.call (r := ()) rfl
        apply Run.call (r := ()) rfl
        apply Run.ret
  | call o k ih =>
      constructor
      · intro h
        rcases h with _ | ⟨ht, h⟩
        exact .call ht ((ih _).mp h)
      · intro h
        cases h with
        | call ht h => exact .call (o := LockOp.op o) ht ((ih _).mpr h)

/-- A guarded program runs its body, or returns an error about the lock and changes
nothing. -/
theorem run_guarded {path : Path} {onOpen onAcquire : E → α} {body : Program Res α} {s s' : S}
    {a : α} :
  Run (Solo T fails) (guarded path onOpen onAcquire body) s a s'
    ↔ Run T body s a s' ∨ fails = true ∧ s' = s ∧ ∃ e, a = onOpen e ∨ a = onAcquire e
  := by
  constructor
  · intro h
    rcases h with _ | @⟨_, _, _, _, _, r, _, ⟨rfl, hf⟩, h⟩
    cases r with
    | error e =>
        cases h
        exact .inr ⟨hf.resolve_right (by simp), rfl, e, .inl rfl⟩
    | ok u =>
        rcases h with _ | @⟨_, _, _, _, _, r, _, ⟨rfl, hf⟩, h⟩
        cases r with
        | error e =>
            rcases h with _ | ⟨rfl, h⟩
            cases h
            exact .inr ⟨hf.resolve_right (by simp), rfl, e, .inr rfl⟩
        | ok u => exact .inl (run_inside.mp h)
  · rintro (h | ⟨rfl, rfl, e, rfl | rfl⟩)
    · apply Run.call (r := .ok ()) ⟨rfl, .inr rfl⟩
      apply Run.call (r := .ok ()) ⟨rfl, .inr rfl⟩
      apply run_inside.mpr h
    · apply Run.call (r := .error e) ⟨rfl, .inl rfl⟩
      apply Run.ret
    · apply Run.call (r := .ok ()) ⟨rfl, .inr rfl⟩
      apply Run.call (r := .error e) ⟨rfl, .inl rfl⟩
      apply Run.call (r := ()) rfl
      apply Run.ret

theorem reach_inside {path : Path} {q : Program Res α} {q' : Program (LockRes Path E Res) α}
    {s s' : S} (h : Reach (Solo T fails) (inside path q) s q' s') :
  ∃ q'', Reach T q s q'' s'
  := by
  induction q generalizing s with
  | ret b =>
      rcases h with _ | ⟨rfl, h⟩
      · exact ⟨_, .refl _ _⟩
      · rcases h with _ | ⟨rfl, h⟩
        · exact ⟨_, .refl _ _⟩
        · cases h
          exact ⟨_, .refl _ _⟩
  | call o k ih =>
      rcases h with _ | ⟨ht, h⟩
      · exact ⟨_, .refl _ _⟩
      · obtain ⟨q'', hq⟩ := ih _ h
        exact ⟨q'', .call ht hq⟩

/-- Where a guarded program is cut short, its body may be cut short. -/
theorem reach_guarded {path : Path} {onOpen onAcquire : E → α} {body : Program Res α}
    {q : Program (LockRes Path E Res) α} {s s' : S}
    (h : Reach (Solo T fails) (guarded path onOpen onAcquire body) s q s') :
  ∃ q', Reach T body s q' s'
  := by
  rcases h with _ | @⟨_, _, _, _, _, r, _, ⟨rfl, -⟩, h⟩
  · exact ⟨_, .refl _ _⟩
  cases r with
  | error e =>
      cases h
      exact ⟨_, .refl _ _⟩
  | ok u =>
      rcases h with _ | @⟨_, _, _, _, _, r, _, ⟨rfl, -⟩, h⟩
      · exact ⟨_, .refl _ _⟩
      cases r with
      | error e =>
          rcases h with _ | ⟨rfl, h⟩
          · exact ⟨_, .refl _ _⟩
          · cases h
            exact ⟨_, .refl _ _⟩
      | ok u => apply reach_inside h

/-- A run that a guarded program's body may be cut short in is one of the guarded
program. -/
theorem guarded_reach {path : Path} {onOpen onAcquire : E → α} {body q : Program Res α}
    {s s' : S} (h : Reach T body s q s') :
  Reach (Solo T fails) (guarded path onOpen onAcquire body) s (inside path q) s'
  := by
  apply Reach.call (r := .ok ()) ⟨rfl, .inr rfl⟩
  apply Reach.call (r := .ok ()) ⟨rfl, .inr rfl⟩
  induction h with
  | refl p s => apply Reach.refl
  | call ht _ ih => exact .call (o := LockOp.op _) ht ih

end

end Effect
