/-!
# Commands

A `Command` is a name of the registrar's interface and its parameters in the order of their first
`set`. Setting a key again replaces the value where it stands.
-/

namespace Registrar

structure Command where
  name : String
  params : List (String × String)
  deriving DecidableEq, Repr

namespace Command

def new (name : String) : Command := ⟨name, []⟩

/-- Replaces the first value of a key in place, or adds the pair at the end. -/
def setIn (key value : String) : List (String × String) → List (String × String)
  | [] => [(key, value)]
  | (k, v) :: ps => if k = key then (k, value) :: ps else (k, v) :: setIn key value ps

def set (c : Command) (key value : String) : Command :=
  { c with params := setIn key value c.params }

/-- Sets a key if there is a value for it. -/
def setSome (c : Command) (key : String) : Option String → Command
  | some value => c.set key value
  | none => c

/-- Sets several keys, one after the other. -/
def setAll (c : Command) (pairs : List (String × String)) : Command :=
  pairs.foldl (fun c (key, value) => c.set key value) c

def get? (c : Command) (key : String) : Option String :=
  c.params.lookup key

theorem lookup_setIn_self (key value : String) (ps : List (String × String)) :
    (setIn key value ps).lookup key = some value := by
  induction ps with
  | nil => simp [setIn]
  | cons p ps ih =>
    obtain ⟨k, v⟩ := p
    by_cases h : k = key
    · simp [setIn, h]
    · have : (key == k) = false := by simpa using fun e => h e.symm
      simp [setIn, h, List.lookup_cons, this, ih]

theorem lookup_setIn_ne {key k : String} (h : k ≠ key) (value : String)
    (ps : List (String × String)) : (setIn key value ps).lookup k = ps.lookup k := by
  induction ps with
  | nil =>
    have : (k == key) = false := by simpa using h
    simp [setIn, List.lookup_cons, this]
  | cons p ps ih =>
    obtain ⟨k', v⟩ := p
    by_cases h' : k' = key
    · have : (k == key) = false := by simpa using h
      simp [setIn, h', List.lookup_cons, this]
    · simp only [setIn, h', if_false, List.lookup_cons, ih]

/-- The keys after a `set`: a new key comes last. -/
theorem map_fst_setIn (key value : String) (ps : List (String × String)) :
    (setIn key value ps).map Prod.fst =
      if key ∈ ps.map Prod.fst then ps.map Prod.fst else ps.map Prod.fst ++ [key] := by
  induction ps with
  | nil => simp [setIn]
  | cons p ps ih =>
    obtain ⟨k, v⟩ := p
    by_cases h : k = key
    · simp [setIn, h]
    · have h' : ¬ key = k := fun e => h e.symm
      simp only [setIn, h, if_false, List.map_cons, ih, List.mem_cons, h', false_or]
      split <;> simp

@[simp] theorem name_set (c : Command) (key value : String) : (c.set key value).name = c.name := rfl

@[simp] theorem name_setSome (c : Command) (key : String) (value : Option String) :
    (c.setSome key value).name = c.name := by
  cases value <;> rfl

@[simp] theorem name_setAll (c : Command) (pairs : List (String × String)) :
    (c.setAll pairs).name = c.name := by
  induction pairs generalizing c with
  | nil => rfl
  | cons p pairs ih => exact ih (c.set p.1 p.2)

@[simp] theorem get?_set_self (c : Command) (key value : String) :
    (c.set key value).get? key = some value :=
  lookup_setIn_self key value c.params

theorem get?_set_ne (c : Command) {key k : String} (h : k ≠ key) (value : String) :
    (c.set key value).get? k = c.get? k :=
  lookup_setIn_ne h value c.params

end Command

end Registrar
