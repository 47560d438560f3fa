import AppRafter.Lib.Await

set_option autoImplicit false

namespace AppRafter.Lib.Prog

variable {api : Api} {Error Value Result State : Type}

-- A program run to its end against a server that answers from its own state.
def play (serve : State → (request : api.Request) → api.Response request × State) :
    Prog api Error Value → State → Except Error Value × State
  | done value, state => (.ok value, state)
  | fail error, state => (.error error, state)
  | call request next, state => (next (serve state request).1).play serve (serve state request).2

variable (serve : State → (request : api.Request) → api.Response request × State)

def resume (rest : Value → Prog api Error Result) : Except Error Value × State → Except Error Result × State
  | (.ok value, state) => (rest value).play serve state
  | (.error error, state) => (.error error, state)

variable (prog : Prog api Error Value) (rest : Value → Prog api Error Result) (state : State)

theorem play_bind : (prog >>= rest).play serve state = resume serve rest (prog.play serve state) := by
  induction prog generalizing state with
  | done value => rfl
  | fail error => rfl
  | call request next ih => exact ih _ _

theorem ends_bind (state final : State) (result : Result) : (prog >>= rest).play serve state = (.ok result, final) ↔
      ∃ value middle, prog.play serve state = (.ok value, middle) ∧ (rest value).play serve middle = (.ok result, final) := by
  rw [play_bind]
  generalize prog.play serve state = played
  obtain ⟨value | value, middle⟩ := played
  · simp [resume]
  · simp [resume, and_assoc]

theorem ends_pure (value result : Value) (state final : State) :
    (pure value : Prog api Error Value).play serve state = (.ok result, final) ↔ value = result ∧ state = final := by
  change (Except.ok value, state) = (Except.ok result, final) ↔ _
  simp

theorem attempt_play {Other : Type} : (prog.attempt : Prog api Other (Except Error Value)).play serve state =
      (.ok (prog.play serve state).1, (prog.play serve state).2) := by
  induction prog generalizing state with
  | done value => rfl
  | fail error => rfl
  | call request next ih => exact ih _ _

-- The program returns `value` and leaves `final`, or fails and leaves the state.
def Yields (value : Value) (final : State) : Prop :=
  prog.play serve state = (.ok value, final) ∨ ∃ error, prog.play serve state = (.error error, state)

theorem yields_pure (value : Value) : (pure value : Prog api Error Value).Yields serve state value state := .inl rfl

variable {prog : Prog api Error Value} {value : Value}

theorem yields_bind {rest : Value → Prog api Error Result} {state final : State}
    {result : Result} (first : prog.Yields serve state value state) (later : (rest value).Yields serve state result final) :
    (prog >>= rest).Yields serve state result final := by
  rcases first with ended | ⟨error, failed⟩
  · rw [Yields, play_bind, ended]
    exact later
  · refine .inr ⟨error, ?_⟩
    rw [play_bind, failed]
    rfl

theorem yields_ends {state final last : State} {result : Value}
    (yields : prog.Yields serve state value final) (ended : prog.play serve state = (.ok result, last)) :
    result = value ∧ last = final := by
  rcases yields with returned | ⟨error, failed⟩
  · rw [returned] at ended
    cases ended
    exact ⟨rfl, rfl⟩
  · rw [failed] at ended
    cases ended

def Leads (related : State → State → Prop) (prog : Prog api Error Value) (state : State) : Prop :=
  related state (prog.play serve state).2

section Leads

variable (related : State → State → Prop)

theorem leads_pure (reflexive : ∀ state, related state state) (value : Value) (state : State) :
    (pure value : Prog api Error Value).Leads serve related state := reflexive state

theorem leads_bind (transitive : ∀ first second third, related first second → related second third → related first third)
    (prog : Prog api Error Value) (rest : Value → Prog api Error Result) (state : State)
    (first : prog.Leads serve related state)
    (later : ∀ value middle, prog.play serve state = (.ok value, middle) → (rest value).Leads serve related middle) :
    (prog >>= rest).Leads serve related state := by
  rw [Leads, play_bind]
  cases played : prog.play serve state with
  | mk ended middle =>
    rw [Leads, played] at first
    cases ended with
    | error error => exact first
    | ok value => exact transitive _ _ _ first (later value middle played)

theorem leads_forM (reflexive : ∀ state, related state state)
    (transitive : ∀ first second third, related first second → related second third → related first third)
    {Item : Type} (items : List Item) (body : Item → Prog api Error PUnit) (state : State)
    (each : ∀ item ∈ items, ∀ later, related state later → (body item).Leads serve related later) :
    (items.forM body).Leads serve related state := by
  suffices general : ∀ rest : List Item, (∀ item ∈ rest, item ∈ items) → ∀ later, related state later →
      (rest.forM body).Leads serve related later from general items (fun _ => id) state (reflexive state)
  intro rest
  induction rest with
  | nil => exact fun _ later _ => reflexive later
  | cons item rest ih =>
    intro among later reached
    refine leads_bind serve _ transitive (body item) (fun _ => rest.forM body) later ?_ ?_
    · exact each item (among item List.mem_cons_self) later reached
    · intro value middle played
      have stepped := each item (among item List.mem_cons_self) later reached
      rw [Leads, played] at stepped
      exact ih (fun other member => among other (List.mem_cons_of_mem _ member)) middle (transitive _ _ _ reached stepped)

end Leads

open List

variable {api : Api} {Error Value Result State : Type}

-- What is left when the program dies after its first `stop` requests.
def cut (serve : State → (request : api.Request) → api.Response request × State) : Nat → Prog api Error Value → State → State
  | stop + 1, call request next, state => (next (serve state request).1).cut serve stop (serve state request).2
  | _, _, state => state

def asked (serve : State → (request : api.Request) → api.Response request × State) :
    Nat → Prog api Error Value → State → Option api.Request
  | 0, call request _, _ => some request
  | stop + 1, call request next, state => (next (serve state request).1).asked serve stop (serve state request).2
  | _, _, _ => none

variable (serve : State → (request : api.Request) → api.Response request × State)

-- `kept` holds all along, requests are ones `may` admits, values ones `returned` holds of.
def Safe (kept : State → Prop) (may : State → api.Request → Prop) (returned : State → Value → Prop) :
    Prog api Error Value → State → Prop
  | done value, state => kept state ∧ returned state value
  | fail _, state => kept state
  | call request next, state => kept state ∧ may state request ∧
      (next (serve state request).1).Safe kept may returned (serve state request).2

section Safe

variable (kept : State → Prop) (may : State → api.Request → Prop)

theorem safe_bind (returned : State → Result → Prop) (prog : Prog api Error Value) (rest : Value → Prog api Error Result)
    (state : State) (safe : prog.Safe serve kept may (fun later value => (rest value).Safe serve kept may returned later) state) :
    (prog >>= rest).Safe serve kept may returned state := by
  induction prog generalizing state with
  | done value => exact safe.2
  | fail error => exact safe
  | call request next ih => exact ⟨safe.1, safe.2.1, ih _ _ safe.2.2⟩

theorem safe_mono (returned wider : State → Value → Prop) (prog : Prog api Error Value) (state : State)
    (implied : ∀ later value, kept later → returned later value → wider later value)
    (safe : prog.Safe serve kept may returned state) : prog.Safe serve kept may wider state := by
  induction prog generalizing state with
  | done value => exact ⟨safe.1, implied _ _ safe.1 safe.2⟩
  | fail error => exact safe
  | call request next ih => exact ⟨safe.1, safe.2.1, ih _ _ safe.2.2⟩

variable (returned : State → Value → Prop) (prog : Prog api Error Value) (state : State)
variable (safe : prog.Safe serve kept may returned state)

include safe

theorem safe_cut (stop : Nat) : kept (prog.cut serve stop state) := by
  induction prog generalizing state stop with
  | done value =>
    cases stop with
    | zero => exact safe.1
    | succ stop => exact safe.1
  | fail error =>
    cases stop with
    | zero => exact safe
    | succ stop => exact safe
  | call request next ih =>
    cases stop with
    | zero => exact safe.1
    | succ stop => exact ih _ _ safe.2.2 stop

theorem safe_asked (stop : Nat) (request : api.Request) (asks : prog.asked serve stop state = some request) :
    may (prog.cut serve stop state) request := by
  induction prog generalizing state stop with
  | done | fail =>
    cases stop with
    | zero => cases asks
    | succ stop => cases asks
  | call first next ih =>
    cases stop with
    | zero =>
      cases asks
      exact safe.2.1
    | succ stop => exact ih _ _ safe.2.2 stop asks

theorem safe_play (value : Value) (final : State) (ended : prog.play serve state = (.ok value, final)) :
    kept final ∧ returned final value := by
  induction prog generalizing state with
  | done held =>
    cases ended
    exact safe
  | fail error => cases ended
  | call request next ih => exact ih _ _ safe.2.2 ended

end Safe

variable {kept : State → Prop}

theorem safe_pure (may : State → api.Request → Prop) {returned : State → Value → Prop} {value : Value}
    {state : State} (holds : kept state) (ends : returned state value) :
    (pure value : Prog api Error Value).Safe serve kept may returned state := ⟨holds, ends⟩

-- A fold over a list, where each item carries `reached` on to the items after it.
theorem safe_fold {Item : Type} {may : State → api.Request → Prop}
    (body : Value → Item → Prog api Error Value) (reached : List Item → State → Value → Prop)
    (items : List Item) (start : Value) (state : State)
    (each : ∀ done, ∀ item ∈ items, ∀ later value, reached done later value →
      (body value item).Safe serve kept may (reached (done ++ [item])) later)
    (holds : ∀ done later value, reached done later value → kept later) (begun : reached [] state start) :
    (items.foldlM body start).Safe serve kept may (reached items) state := by
  suffices general : ∀ (rest done : List Item), (∀ item ∈ rest, item ∈ items) → ∀ later value, reached done later value →
      (rest.foldlM body value).Safe serve kept may (reached (done ++ rest)) later from
    general items [] (fun _ => id) state start begun
  intro rest
  induction rest with
  | nil =>
    intro done _ later value met
    rw [append_nil]
    exact safe_pure serve may (holds done later value met) met
  | cons item rest ih =>
    intro done among later value met
    have stepped := each done item (among item mem_cons_self) later value met
    refine safe_bind serve kept may _ _ _ later (safe_mono serve kept may _ _ _ later ?_ stepped)
    intro final next _ reachedNext
    have onwards := ih (done ++ [item]) (fun other member => among other (mem_cons_of_mem _ member)) final next reachedNext
    rwa [append_assoc, singleton_append] at onwards

variable {api : Api} {Error Value Result World State Fate : Type}

def Finishes (serve : World → Fate → (request : api.Request) → api.Response request × World) :
    Prog api Error Value → World → List (Exchange api) → Value → World → Prop
  | done value, world, history, result, final => history = [] ∧ value = result ∧ world = final
  | fail _, _, _, _, _ => False
  | call request next, world, history, result, final =>
    ∃ fate later, history = ⟨request, (serve world fate request).1⟩ :: later ∧
      (next (serve world fate request).1).Finishes serve (serve world fate request).2 later result final

variable (serve : World → Fate → (request : api.Request) → api.Response request × World)

theorem finishes_bind (prog : Prog api Error Value) (rest : Value → Prog api Error Result) (world final : World)
    (history : List (Exchange api)) (result : Result) :
    (prog >>= rest).Finishes serve world history result final ↔
      ∃ value middle first second, history = first ++ second ∧ prog.Finishes serve world first value middle ∧
        (rest value).Finishes serve middle second result final := by
  induction prog generalizing world history with
  | done value =>
    constructor
    · exact fun finished => ⟨value, world, [], history, rfl, ⟨rfl, rfl, rfl⟩, finished⟩
    · rintro ⟨_, _, _, _, rfl, ⟨rfl, rfl, rfl⟩, finished⟩
      exact finished
  | fail error =>
    constructor
    · exact False.elim
    · rintro ⟨_, _, _, _, _, failed, _⟩
      exact failed
  | call request next ih =>
    constructor
    · rintro ⟨fate, later, rfl, finished⟩
      obtain ⟨value, middle, first, second, rfl, ended, continued⟩ := (ih _ _ _).mp finished
      exact ⟨value, middle, _ :: first, second, rfl, ⟨fate, first, rfl, ended⟩, continued⟩
    · rintro ⟨value, middle, _, second, rfl, ⟨fate, first, rfl, ended⟩, continued⟩
      exact ⟨fate, first ++ second, rfl, (ih _ _ _).mpr ⟨value, middle, first, second, rfl, ended, continued⟩⟩

theorem finishes_asks (may : api.Request → Prop) (prog : Prog api Error Value) (world final : World)
    (history : List (Exchange api)) (result : Value) (asks : Asks may prog)
    (finished : prog.Finishes serve world history result final) : ∀ exchange ∈ history, may exchange.request := by
  induction prog generalizing world history with
  | done value =>
    rw [finished.1]
    exact nofun
  | fail error => exact finished.elim
  | call request next ih =>
    obtain ⟨fate, later, rfl, continued⟩ := finished
    intro exchange member
    rcases List.mem_cons.mp member with rfl | rest
    · exact asks.1
    · exact ih _ _ _ (asks.2 _) continued exchange rest

def talk (serve : State → (request : api.Request) → api.Response request × State) :
    Prog api Error Value → State → List (Exchange api)
  | done _, _ => []
  | fail _, _ => []
  | call request next, state =>
    ⟨request, (serve state request).1⟩ :: (next (serve state request).1).talk serve (serve state request).2

-- A program played under one fate for every request finishes so.
theorem finishes_played (fate : Fate) (prog : Prog api Error Value) (world : World) (value : Value)
    (ended : (prog.play (fun state request => serve state fate request) world).1.toOption = some value) :
    prog.Finishes serve world (prog.talk (fun state request => serve state fate request) world) value
      (prog.play (fun state request => serve state fate request) world).2 := by
  induction prog generalizing world with
  | done held => exact ⟨rfl, Option.some.inj ended, rfl⟩
  | fail error => cases ended
  | call request next ih => exact ⟨fate, _, rfl, ih _ _ ended⟩

variable {api : Api} {Error Value Result State : Type}

section Cut

variable (serve : State → (request : api.Request) → api.Response request × State) (torn : State → api.Request → State → Prop)

-- What a program leaves behind that is cut between two requests, or within one.
inductive Cut : Prog api Error Value → State → State → Prop where
  | here (prog : Prog api Error Value) (state : State) : Cut prog state state
  | within (request : api.Request) (next : api.Response request → Prog api Error Value) (state after : State)
      (tears : torn state request after) : Cut (.call request next) state after
  | later (request : api.Request) (next : api.Response request → Prog api Error Value) (state after : State)
      (rest : Cut (next (serve state request).1) (serve state request).2 after) : Cut (.call request next) state after

theorem cut_play (prog : Prog api Error Value) (state : State) : prog.Cut serve torn state (prog.play serve state).2 := by
  induction prog generalizing state with
  | done | fail => exact .here _ state
  | call request next ih => exact .later request next state _ (ih _ _)

end Cut

variable (serve : State → (request : api.Request) → api.Response request × State)

-- Every request is made in a state that is safe for it.
def Guarded (safe : State → api.Request → Prop) : Prog api Error Value → State → Prop
  | done _, _ => True
  | fail _, _ => True
  | call request next, state => safe state request ∧ Guarded safe (next (serve state request).1) (serve state request).2

variable (safe : State → api.Request → Prop)

theorem guarded_bind (prog : Prog api Error Value) (rest : Value → Prog api Error Result) (state : State)
    (first : prog.Guarded serve safe state)
    (later : ∀ value middle, prog.play serve state = (.ok value, middle) → (rest value).Guarded serve safe middle) :
    (prog >>= rest).Guarded serve safe state := by
  induction prog generalizing state with
  | done value => exact later value state rfl
  | fail error => trivial
  | call request next ih => exact ⟨first.1, ih _ _ first.2 later⟩

theorem guarded_cut {torn : State → api.Request → State → Prop} {inv : State → Prop}
    (serves : ∀ state request, safe state request → inv state → inv (serve state request).2)
    (tears : ∀ state request after, safe state request → torn state request after → inv state → inv after)
    {prog : Prog api Error Value} (state after : State) (guarded : prog.Guarded serve safe state) (start : inv state)
    (cut : prog.Cut serve torn state after) : inv after := by
  induction cut with
  | here prog state => exact start
  | within request next state after tear => exact tears state request after guarded.1 tear start
  | later request next state after rest ih => exact ih guarded.2 (serves state request guarded.1 start)

end AppRafter.Lib.Prog
