import Sluice.Dispatch.Basic

/-!
# Many dispatches at one dispatcher

Requests come, the dispatches in flight go on one at a time and end in every way they can, or are
dropped, in any order, and in between others do what they may with the cache and the link. What a
move can come to is told here once, by a relation with one case for each kind of move.
-/
namespace Sluice

/-- A dispatch in flight, with what is remembered of its request. -/
structure Flight (ε α : Type) where
  tag : α
  dispatch : Dispatch ε

/-- A dispatcher and its dispatches in flight, by the numbers of their requests. -/
structure Dispatches (τ ε α : Type) where
  service : Service τ
  /-- How many requests came. -/
  started : Nat := 0
  flights : Table Nat (Flight ε α) := .empty

namespace Dispatches

/-- What can happen next, where others may change the service in certain ways only. -/
inductive Move (τ ε α : Type) (may : (Service τ → Service τ) → Prop) where
  | start (now : Instant) (request : Request) (program : Program ε) (tag : α)
  /-- A dispatch in flight is looked at, and goes on if it can. -/
  | resume (id : Nat) (now : Instant)
  | answer (id : Nat) (now : Instant) (n : Nat)
  /-- A dispatch in flight is dropped. -/
  | drop (id : Nat)
  | others (change : {change : Service τ → Service τ // may change})

variable {τ ε α : Type} {may : (Service τ → Service τ) → Prop}

/-- A dispatcher before any request. -/
def opening (d : Dispatcher) (l : Link τ) : Dispatches τ ε α where
  service := ⟨d, l⟩

/-- Notes how far the dispatch with this number came. -/
def settle (r : Dispatches τ ε α) (id : Nat) (tag : α) :
    Service τ × Outcome ε → Dispatches τ ε α
  | (s, .inFlight dispatch) =>
    { r with service := s, flights := r.flights.insert id ⟨tag, dispatch⟩ }
  | (s, .returned _) | (s, .crashed _) =>
    { r with service := s, flights := r.flights.erase id }

/-- A dispatch in flight is no more. -/
def cancel [Transport τ] (r : Dispatches τ ε α) (id : Nat) (f : Flight ε α) : Dispatches τ ε α :=
  { r with service := r.service.cancel f.dispatch, flights := r.flights.erase id }

/-- One more request came. -/
def next (r : Dispatches τ ε α) : Dispatches τ ε α := { r with started := r.started + 1 }

variable [Transport τ]

/-- The turn that a move gives: the number of the request, what is remembered of it, and how far its
dispatch comes. -/
def turn? (r : Dispatches τ ε α) : Move τ ε α may → Option (Nat × α × Service τ × Outcome ε)
  | .start now request program tag =>
    some (r.started, tag, r.service.start now request program)
  | .resume id now =>
    (r.flights.find? id).map fun f => (id, f.tag, r.service.resume now f.dispatch)
  | .answer id now n =>
    (r.flights.find? id).map fun f => (id, f.tag, r.service.answer now f.dispatch n)
  | .drop _ | .others _ => none

def act (r : Dispatches τ ε α) : Move τ ε α may → Dispatches τ ε α
  | .start now request program tag =>
    r.next.settle r.started tag (r.service.start now request program)
  | .resume id now =>
    match r.flights.find? id with
    | none => r
    | some f => r.settle id f.tag (r.service.resume now f.dispatch)
  | .answer id now n =>
    match r.flights.find? id with
    | none => r
    | some f => r.settle id f.tag (r.service.answer now f.dispatch n)
  | .drop id =>
    match r.flights.find? id with
    | none => r
    | some f => r.cancel id f
  | .others change => { r with service := change.1 r.service }

def run (r : Dispatches τ ε α) (moves : List (Move τ ε α may)) : Dispatches τ ε α :=
  moves.foldl act r

/-! ## What a settlement leaves -/

section

variable (r : Dispatches τ ε α) (id : Nat) (tag : α) (s : Service τ) (o : Outcome ε)

omit [Transport τ] in
@[simp] theorem service_settle : (r.settle id tag (s, o)).service = s := by
  cases o <;> rfl

omit [Transport τ] in
@[simp] theorem started_settle : (r.settle id tag (s, o)).started = r.started := by
  cases o <;> rfl

omit [Transport τ] in
/-- A dispatch in flight after a settlement waited then, or it is another one. -/
theorem of_find?_settle {r : Dispatches τ ε α} {id other : Nat} {tag : α} {s : Service τ}
    {o : Outcome ε} {f : Flight ε α} (h : (r.settle id tag (s, o)).flights.find? other = some f) :
    other = id ∧ f.tag = tag ∧ o = .inFlight f.dispatch ∨
      other ≠ id ∧ r.flights.find? other = some f := by
  cases o with
  | inFlight d =>
    rcases Table.of_find?_insert h with ⟨rfl, rfl⟩ | ⟨hne, hold⟩
    · exact .inl ⟨rfl, rfl, rfl⟩
    · exact .inr ⟨hne, hold⟩
  | returned result => exact .inr (Table.of_find?_erase h)
  | crashed message => exact .inr (Table.of_find?_erase h)

end

/-! ## What a move comes to -/

/-- From one moment to the next by a move. -/
inductive Steps (r : Dispatches τ ε α) : Move τ ε α may → Dispatches τ ε α → Prop where
  | starts {now request program tag s o} : r.service.start now request program = (s, o) →
      Steps r (.start now request program tag) (r.next.settle r.started tag (s, o))
  | resumes {id now f s o} : r.flights.find? id = some f →
      r.service.resume now f.dispatch = (s, o) →
      Steps r (.resume id now) (r.settle id f.tag (s, o))
  | answers {id now n f s o} : r.flights.find? id = some f →
      r.service.answer now f.dispatch n = (s, o) →
      Steps r (.answer id now n) (r.settle id f.tag (s, o))
  | drops {id f} : r.flights.find? id = some f → Steps r (.drop id) (r.cancel id f)
  /-- No turn is given, and nothing changes. -/
  | idles {move} : r.turn? move = none → Steps r move r
  | changes {change} : Steps r (.others change) { r with service := change.1 r.service }

theorem steps_act (r : Dispatches τ ε α) (move : Move τ ε α may) : r.Steps move (r.act move) := by
  have hidle (hturn : r.turn? move = none) (hact : r.act move = r) : r.Steps move (r.act move) := by
    rw [hact]
    exact .idles hturn
  cases move with
  | start now request program tag => exact .starts rfl
  | resume id now =>
    cases hf : r.flights.find? id with
    | none => exact hidle (by simp only [turn?, hf, Option.map_none]) (by simp only [act, hf])
    | some f =>
      simp only [act, hf]
      exact .resumes hf rfl
  | answer id now n =>
    cases hf : r.flights.find? id with
    | none => exact hidle (by simp only [turn?, hf, Option.map_none]) (by simp only [act, hf])
    | some f =>
      simp only [act, hf]
      exact .answers hf rfl
  | drop id =>
    cases hf : r.flights.find? id with
    | none => exact hidle rfl (by simp only [act, hf])
    | some f =>
      simp only [act, hf]
      exact .drops hf
  | others change => exact .changes

/-- No request is forgotten. -/
theorem Steps.started_le {r r' : Dispatches τ ε α} {move : Move τ ε α may}
    (h : r.Steps move r') : r.started ≤ r'.started := by
  cases h with
  | starts =>
    rw [started_settle]
    exact Nat.le_succ _
  | resumes => exact Nat.le_of_eq (started_settle ..).symm
  | answers => exact Nat.le_of_eq (started_settle ..).symm
  | drops => exact Nat.le_refl _
  | idles => exact Nat.le_refl _
  | changes => exact Nat.le_refl _

/-- What every move preserves holds after any run. -/
theorem run_of_act {P : Dispatches τ ε α → Prop}
    (hact : ∀ r, P r → ∀ move : Move τ ε α may, P (r.act move)) {r : Dispatches τ ε α} (h : P r)
    (moves : List (Move τ ε α may)) : P (r.run moves) := by
  induction moves generalizing r with
  | nil => exact h
  | cons move rest ih => exact ih (hact r h move)

/-! ## The numbers of the requests -/

/-- Those in flight were started. -/
def Numbered (r : Dispatches τ ε α) : Prop :=
  ∀ id f, r.flights.find? id = some f → id < r.started

variable {r : Dispatches τ ε α}

omit [Transport τ] in
theorem Numbered.settle (h : r.Numbered) {id : Nat} (hid : id < r.started) (tag : α)
    (s : Service τ) (o : Outcome ε) : (r.settle id tag (s, o)).Numbered := by
  intro other f hf
  rw [started_settle]
  rcases of_find?_settle hf with ⟨rfl, -⟩ | ⟨-, hold⟩
  · exact hid
  · exact h other f hold

omit [Transport τ] in
/-- One more request comes. -/
theorem Numbered.next (h : r.Numbered) : r.next.Numbered :=
  fun id f hf => Nat.lt_succ_of_lt (h id f hf)

omit [Transport τ] in
/-- The next request has a number of its own. -/
theorem Numbered.find?_started (h : r.Numbered) : r.flights.find? r.started = none := by
  cases hfind : r.flights.find? r.started with
  | none => rfl
  | some f => exact absurd (h _ _ hfind) (Nat.lt_irrefl _)

theorem Numbered.cancel (h : r.Numbered) (id : Nat) (f : Flight ε α) : (r.cancel id f).Numbered :=
  fun other g hg => h other g (Table.of_find?_erase hg).2

end Dispatches

end Sluice
