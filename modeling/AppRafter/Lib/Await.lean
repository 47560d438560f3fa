import AppRafter.Lib.System

set_option autoImplicit false

namespace AppRafter.Lib

-- What a program may ask of the outside, and what comes back.
structure Api where
  Request : Type
  Response : Request → Type

-- An asynchronous function, cut at its awaits.
inductive Prog (api : Api) (Error Value : Type) where
  | done (value : Value)
  | fail (error : Error)
  | call (request : api.Request) (next : api.Response request → Prog api Error Value)

structure Exchange (api : Api) where
  request : api.Request
  response : api.Response request

namespace Prog

variable {api : Api} {Error Value Result : Type}

def bind (prog : Prog api Error Value) (rest : Value → Prog api Error Result) : Prog api Error Result :=
  match prog with
  | done value => rest value
  | fail error => fail error
  | call request next => call request fun response => (next response).bind rest

instance : Monad (Prog api Error) where
  pure := done
  bind := bind

theorem bind_assoc {Last : Type} (prog : Prog api Error Value) (first : Value → Prog api Error Result)
    (second : Result → Prog api Error Last) : (prog >>= first) >>= second = prog >>= fun value => first value >>= second := by
  induction prog with
  | done value => rfl
  | fail error => rfl
  | call request next ih =>
    exact congrArg (call request) (funext ih)

def attempt {Other : Type} : Prog api Error Value → Prog api Other (Except Error Value)
  | done value => .done (.ok value)
  | fail error => .done (.error error)
  | call request next => .call request fun response => (next response).attempt

-- Every request is `allowed` after the exchanges before it, every value returned `returned`.
def Runs (allowed : List (Exchange api) → api.Request → Prop) (returned : List (Exchange api) → Value → Prop)
    (history : List (Exchange api)) : Prog api Error Value → Prop
  | done value => returned history value
  | fail _ => True
  | call request next => allowed history request ∧
      ∀ response, Runs allowed returned (history ++ [⟨request, response⟩]) (next response)

variable (allowed : List (Exchange api) → api.Request → Prop) (history : List (Exchange api))

theorem runs_bind (returned : List (Exchange api) → Result → Prop) (prog : Prog api Error Value)
    (rest : Value → Prog api Error Result) :
    Runs allowed returned history (prog >>= rest) ↔
      Runs allowed (fun later value => Runs allowed returned later (rest value)) history prog := by
  change Runs allowed returned history (prog.bind rest) ↔ _
  induction prog generalizing history with
  | done value => rfl
  | fail error => rfl
  | call request next ih =>
    simp only [bind, Runs]
    rw [and_congr_right_iff]
    intro _
    exact forall_congr' fun response => ih response _

variable {allowed} {returned : List (Exchange api) → Value → Prop} {prog : Prog api Error Value} {may : api.Request → Prop}

theorem runs_mono {stronger : List (Exchange api) → Value → Prop}
    (implied : ∀ later value, stronger later value → returned later value)
    (runs : Runs allowed stronger history prog) : Runs allowed returned history prog := by
  induction prog generalizing history with
  | done value => exact implied _ _ runs
  | fail error => trivial
  | call request next ih => exact ⟨runs.1, fun response => ih response _ (runs.2 response)⟩

def Asks (may : api.Request → Prop) : Prog api Error Value → Prop
  | done _ => True
  | fail _ => True
  | call request next => may request ∧ ∀ response, Asks may (next response)

theorem asks_bind {rest : Value → Prog api Error Result}
    (first : Asks may prog) (then_ : ∀ value, Asks may (rest value)) : Asks may (prog >>= rest) := by
  induction prog with
  | done value => exact then_ value
  | fail error => trivial
  | call request next ih => exact ⟨first.1, fun response => ih response (first.2 response)⟩

theorem asks_mono {wider : api.Request → Prop}
    (implied : ∀ asked, may asked → wider asked) (asks : Asks may prog) : Asks wider prog := by
  induction prog with
  | done value => trivial
  | fail error => trivial
  | call request next ih => exact ⟨implied _ asks.1, fun response => ih response (asks.2 response)⟩

-- Such a program runs under any `kept` its requests leave alone.
theorem runs_asks (kept : List (Exchange api) → Prop) (may : api.Request → Prop) (prog : Prog api Error Value)
    (keeps : ∀ later asked response, kept later → may asked → kept (later ++ [⟨asked, response⟩]))
    (admits : ∀ later asked, kept later → may asked → allowed later asked)
    (holds : ∀ later value, kept later → returned later value) (start : kept history) (asks : Asks may prog) :
    Runs allowed returned history prog := by
  induction prog generalizing history with
  | done value => exact holds _ _ start
  | fail error => trivial
  | call request next ih =>
    exact ⟨admits _ _ start asks.1, fun response => ih response _ (keeps _ _ response start asks.1) (asks.2 response)⟩

end Prog

end AppRafter.Lib

namespace AppRafter.Lib.Prog

variable {api : Api} {Error Value : Type}

-- With `sent`, the next request is out by then and the answer is lost.
def within (left : Nat) (sent : Bool) (prog : Prog api Error Value) : Prog api Error (Option Value) :=
  match prog, left with
  | done value, _ => done (some value)
  | fail error, _ => fail error
  | call request _, 0 => if sent then call request fun _ => done none else done none
  | call request next, left + 1 => call request fun response => (next response).within left sent

variable (allowed : List (Exchange api) → api.Request → Prop) (history : List (Exchange api))

theorem runs_within (returned : List (Exchange api) → Option Value → Prop) (left : Nat) (sent : Bool)
    (prog : Prog api Error Value) (lost : ∀ later, returned later none)
    (runs : Runs allowed (fun later value => returned later (some value)) history prog) :
    Runs allowed returned history (prog.within left sent) := by
  induction prog generalizing history left with
  | done value =>
    cases left <;> exact runs
  | fail error =>
    cases left <;> trivial
  | call request next ih =>
    cases left with
    | zero =>
      cases sent with
      | true => exact ⟨runs.1, fun _ => lost _⟩
      | false => exact lost _
    | succ left => exact ⟨runs.1, fun response => ih response _ left (runs.2 response)⟩

end AppRafter.Lib.Prog
