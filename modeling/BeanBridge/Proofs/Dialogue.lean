import BeanBridge.Timed

/-! Laws of dialogues.  A dialogue that goes on behind another is one dialogue, however the parts are
bracketed, and what happens to a part of a state can be looked at as a dialogue on that part. -/

namespace BeanBridge

namespace Dialogue

variable {σ τ Q : Type} {R : Q → Type} {α β γ : Type}

theorem bind_done_end (dialogue : Dialogue σ R α) :
    (dialogue.bind fun value state => done state value) = dialogue := by
  induction dialogue with
  | done state value => rfl
  | ask state question resume ih =>
    rw [bind]
    congr 1
    funext reply state
    exact ih reply state

theorem bind_assoc (dialogue : Dialogue σ R α) (first : α → σ → Dialogue σ R β)
    (second : β → σ → Dialogue σ R γ) :
    (dialogue.bind first).bind second =
      dialogue.bind fun value state => (first value state).bind second := by
  induction dialogue with
  | done state value => rfl
  | ask state question resume ih =>
    simp only [bind]
    congr 1
    funext reply state
    exact ih reply state

/-- The dialogue as it looks from a part of its state: whatever becomes of that part at a question,
the rest of the state is as it was. -/
def seen (part : σ → τ) (put : τ → σ → σ) : Dialogue σ R α → Dialogue τ R α
  | done state value => done (part state) value
  | ask state question resume =>
    ask (part state) question fun reply t => (resume reply (put t state)).seen part put

theorem seen_bind {part : σ → τ} {put : τ → σ → σ} (dialogue : Dialogue σ R α)
    {next : α → σ → Dialogue σ R β} {nextSeen : α → τ → Dialogue τ R β}
    (h : ∀ value state, (next value state).seen part put = nextSeen value (part state)) :
    (dialogue.bind next).seen part put = (dialogue.seen part put).bind nextSeen := by
  induction dialogue with
  | done state value => exact h value state
  | ask state question resume ih =>
    simp only [bind, seen]
    congr 1
    funext reply t
    exact ih reply (put t state)

/-- What is done on a part of a state looks from there as it is, and what follows finds the rest of
the state unchanged. -/
theorem seen_focus_bind (part : σ → τ) (put : τ → σ → σ) (hGet : ∀ t state, part (put t state) = t)
    (hPut : ∀ t t' state, put t (put t' state) = put t state) (dialogue : Dialogue τ R α)
    (next : α → σ → Dialogue σ R β) (state : σ) :
    ((dialogue.focus part put state).bind next).seen part put =
      dialogue.bind fun value t => (next value (put t state)).seen part put := by
  induction dialogue generalizing state with
  | done t value => rfl
  | ask t question resume ih =>
    simp only [focus, bind, seen, hGet, hPut, ih]

section run

variable {tick : Nat → σ → σ}

theorem run_bind (dialogue : Dialogue σ Wait.Reply α) (next : α → σ → Dialogue σ Wait.Reply β) :
    (dialogue.bind next).run tick =
      (next (dialogue.run tick).1 (dialogue.run tick).2).run tick := by
  induction dialogue with
  | done state value => rfl
  | ask state wait resume ih => exact ih () (tick wait.milliseconds state)

/-- A run on a part of a state is a run of the whole, if time changes nothing but that part. -/
theorem run_focus {part : σ → τ} {put : τ → σ → σ} (tickPart : Nat → τ → τ)
    (hPart : ∀ milliseconds t state, part (tick milliseconds (put t state)) = tickPart milliseconds t)
    (hRest : ∀ milliseconds t t' state, put t' (tick milliseconds (put t state)) = put t' state)
    (dialogue : Dialogue τ Wait.Reply α) (state : σ) :
    (dialogue.focus part put state).run tick =
      ((dialogue.run tickPart).1, put (dialogue.run tickPart).2 state) := by
  induction dialogue generalizing state with
  | done t value => rfl
  | ask t wait resume ih =>
    rw [focus, run, run, ih, hPart, hRest]

/-- A run on the second part of a state, while the first drifts for itself: what drifting keeps of the
first part holds after it. -/
theorem run_focus_snd (tick : Nat → τ → τ) {drift : Nat → σ → σ} {P : σ → Prop}
    (hDrift : ∀ milliseconds state, P state → P (drift milliseconds state))
    (dialogue : Dialogue τ Wait.Reply α) (whole : σ × τ) (h : P whole.1) :
    ∃ state, P state ∧
      (dialogue.focus Prod.snd (fun t whole => (whole.1, t)) whole).run
          (fun milliseconds whole => (drift milliseconds whole.1, tick milliseconds whole.2)) =
        ((dialogue.run tick).1, (state, (dialogue.run tick).2)) := by
  induction dialogue generalizing whole with
  | done t value => exact ⟨whole.1, h, rfl⟩
  | ask t wait resume ih =>
    rw [focus, run, run]
    exact ih () _ _ (hDrift _ _ h)

end run

/-- A dialogue held with one who answers in its own time: the outcome, and what both are like after
it. -/
def held {κ : Type} (answer : (question : Q) → Timed κ (R question)) (tick : Nat → κ → κ) :
    Dialogue σ R α → κ → α × σ × κ
  | done state value, inner => (value, state, inner)
  | ask state question resume, inner =>
    (resume ((answer question inner).run tick).1 state).held answer tick
      ((answer question inner).run tick).2

section held

variable {κ : Type} {answer : (question : Q) → Timed κ (R question)} {tick : Nat → κ → κ}

theorem held_bind (dialogue : Dialogue σ R α) (next : α → σ → Dialogue σ R β) (inner : κ) :
    (dialogue.bind next).held answer tick inner =
      (next (dialogue.held answer tick inner).1 (dialogue.held answer tick inner).2.1).held answer
        tick (dialogue.held answer tick inner).2.2 := by
  induction dialogue generalizing inner with
  | done state value => rfl
  | ask state question resume ih => exact ih _ _ _

/-- The run of a dialogue that is served is the dialogue held, if time changes nothing but the one
who serves. -/
theorem run_servedBy (dialogue : Dialogue σ R α) (inner : κ) :
    (dialogue.servedBy answer inner).run
        (fun milliseconds whole => (whole.1, tick milliseconds whole.2)) =
      dialogue.held answer tick inner := by
  induction dialogue generalizing inner with
  | done state value => rfl
  | ask state question resume ih =>
    rw [servedBy, run_bind, run_focus tick (fun _ _ _ => rfl) (fun _ _ _ _ => rfl)]
    exact ih _ _ _

end held

/-- Whatever is answered on the way, the value at the end is of this kind. -/
def Yields (P : α → Prop) : Dialogue σ R α → Prop
  | done _ value => P value
  | ask _ _ resume => ∀ reply state, (resume reply state).Yields P

section Yields

variable {P : α → Prop}

theorem yields_true (dialogue : Dialogue σ R α) : dialogue.Yields fun _ => True := by
  induction dialogue with
  | done state value => trivial
  | ask state question resume ih => exact ih

theorem Yields.bind {P' : β → Prop} {dialogue : Dialogue σ R α} {next : α → σ → Dialogue σ R β}
    (h : dialogue.Yields P) (hNext : ∀ value state, P value → (next value state).Yields P') :
    (dialogue.bind next).Yields P' := by
  induction dialogue with
  | done state value => exact hNext value state h
  | ask state question resume ih => exact fun reply state => ih reply state (h reply state)

theorem Yields.focus {part : σ → τ} {put : τ → σ → σ} {dialogue : Dialogue τ R α}
    (h : dialogue.Yields P) (state : σ) : (dialogue.focus part put state).Yields P := by
  induction dialogue generalizing state with
  | done t value => exact h
  | ask t question resume ih => exact fun reply state => ih reply (part state) (h reply _) state

theorem Yields.within {dialogue : Dialogue σ Wait.Reply α} (h : dialogue.Yields P) (limit : Nat) :
    (dialogue.within limit).Yields fun value => ∀ found ∈ value, P found := by
  induction dialogue generalizing limit with
  | done state value =>
    rintro found ⟨⟩
    exact h
  | ask state wait resume ih =>
    rw [Dialogue.within]
    split
    · exact fun reply state => ih reply state (h reply state) _
    · exact fun reply state => nofun

theorem Yields.run {dialogue : Dialogue σ Wait.Reply α} (h : dialogue.Yields P)
    (tick : Nat → σ → σ) : P (dialogue.run tick).1 := by
  induction dialogue with
  | done state value => exact h
  | ask state wait resume ih => exact ih () _ (h () _)

end Yields

end Dialogue

namespace Action

variable {σ Q : Type} {R : Q → Type} {α β : Type}

theorem bind_apply (action : Action σ R α) (next : α → Action σ R β) (state : σ) :
    (action >>= next) state = (action state).bind next := rfl

theorem pure_apply (value : α) (state : σ) : (pure value : Action σ R α) state = .done state value :=
  rfl

theorem get_bind_apply (next : σ → Action σ R α) (state : σ) :
    (get >>= next) state = next state state := rfl

theorem modify_bind_apply (change : σ → σ) (next : Unit → Action σ R α) (state : σ) :
    (modify change >>= next) state = next () (change state) := rfl

theorem ask_bind_apply (question : Q) (next : R question → Action σ R α) (state : σ) :
    (ask question >>= next) state = .ask state question next := rfl

instance : LawfulMonad (Action σ R) :=
  LawfulMonad.mk' _
    (fun action => funext fun state => (action state).bind_done_end)
    (fun _ _ => rfl)
    (fun action first second => funext fun state => (action state).bind_assoc first second)

section run

variable {tick : Nat → σ → σ}

theorem run_pure (value : α) (state : σ) :
    ((pure value : Timed σ α) state).run tick = (value, state) := rfl

/-- An action goes on with what its first part came to. -/
theorem run_bind {first : Timed σ α} {next : α → Timed σ β} {before after : σ} {value : α}
    (h : (first before).run tick = (value, after)) :
    ((first >>= next) before).run tick = (next value after).run tick := by
  refine (Dialogue.run_bind (first before) next).trans ?_
  rw [h]

theorem run_mapM_cons (act : α → Timed σ β) (value : α) (values : List α) (state : σ) :
    ((value :: values).mapM act state).run tick =
      (((act value state).run tick).1 ::
          ((values.mapM act ((act value state).run tick).2).run tick).1,
        ((values.mapM act ((act value state).run tick).2).run tick).2) := by
  rw [List.mapM_cons, run_bind rfl, run_bind rfl, run_pure]

end run

section held

variable {κ : Type} {answer : (question : Q) → Timed κ (R question)} {tick : Nat → κ → κ}

theorem held_pure (value : α) (state : σ) (inner : κ) :
    ((pure value : Action σ R α) state).held answer tick inner = (value, state, inner) := rfl

theorem held_ask_bind {question : Q} {reply : R question} {next : R question → Action σ R α}
    {inner after : κ} (h : (answer question inner).run tick = (reply, after)) (state : σ) :
    ((ask question >>= next) state).held answer tick inner =
      (next reply state).held answer tick after := by
  show (next ((answer question inner).run tick).1 state).held answer tick _ = _
  rw [h]

theorem held_bind {first : Action σ R α} {next : α → Action σ R β} {before after : σ}
    {inner innerAfter : κ} {value : α}
    (h : (first before).held answer tick inner = (value, after, innerAfter)) :
    ((first >>= next) before).held answer tick inner =
      (next value after).held answer tick innerAfter := by
  refine (Dialogue.held_bind (first before) next inner).trans ?_
  rw [h]

end held

end Action

end BeanBridge
