/-!
# Log records

What the engine tells a human on the way: warnings and errors, each a message with named values.
A computation that may write records is a `Logged` value: its result, and the records in the
order in which they were written.
-/

namespace StreamVerdict

/-- How serious a record is. -/
inductive Severity where
  | warning
  | error
  deriving DecidableEq

/-- A message with named values. -/
structure LogRecord where
  severity : Severity
  message : String
  fields : List (String × String) := []
  deriving DecidableEq

namespace LogRecord

/-- A warning. -/
def warn (message : String) (fields : List (String × String) := []) : LogRecord :=
  ⟨.warning, message, fields⟩

/-- An error. -/
def error (message : String) (fields : List (String × String) := []) : LogRecord :=
  ⟨.error, message, fields⟩

end LogRecord

/-- A result with the records written on the way to it. -/
structure Logged (α : Type) where
  value : α
  records : List LogRecord := []

namespace Logged

/-- Writes one record. -/
def write (r : LogRecord) : Logged Unit :=
  ⟨(), [r]⟩

instance : Monad Logged where
  pure a := ⟨a, []⟩
  bind x f := ⟨(f x.value).value, x.records ++ (f x.value).records⟩

instance : LawfulMonad Logged :=
  LawfulMonad.mk' Logged
    (fun x => by simp [Functor.map])
    (fun _ _ => rfl)
    (fun x f g => by simp [Bind.bind])

variable {α β : Type}

@[simp] theorem value_pure (a : α) : (pure a : Logged α).value = a := rfl

@[simp] theorem records_pure (a : α) : (pure a : Logged α).records = [] := rfl

@[simp] theorem value_bind (x : Logged α) (f : α → Logged β) :
    (x >>= f).value = (f x.value).value := rfl

@[simp] theorem records_bind (x : Logged α) (f : α → Logged β) :
    (x >>= f).records = x.records ++ (f x.value).records := rfl

@[simp] theorem value_map (f : α → β) (x : Logged α) : (f <$> x).value = f x.value := rfl

@[simp] theorem records_map (f : α → β) (x : Logged α) : (f <$> x).records = x.records :=
  List.append_nil _

end Logged

end StreamVerdict
