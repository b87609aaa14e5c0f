namespace SchemaPlan

inductive Severity
  | debug
  | info
  | warning
  deriving DecidableEq

structure LogRecord where
  severity : Severity
  message : String
  deriving DecidableEq

/-- A value together with the records logged on the way to it, oldest first. -/
structure Logged (α : Type) where
  value : α
  records : List LogRecord := []
  deriving DecidableEq

namespace Logged

instance : Monad Logged where
  pure a := ⟨a, []⟩
  bind x f := ⟨(f x.value).value, x.records ++ (f x.value).records⟩

@[simp] theorem value_pure (a : α) : (pure a : Logged α).value = a := rfl

@[simp] theorem records_pure (a : α) : (pure a : Logged α).records = [] := rfl

@[simp] theorem value_bind (x : Logged α) (f : α → Logged β) :
    (x >>= f).value = (f x.value).value := rfl

@[simp] theorem records_bind (x : Logged α) (f : α → Logged β) :
    (x >>= f).records = x.records ++ (f x.value).records := rfl

instance : LawfulMonad Logged :=
  LawfulMonad.mk' Logged
    (fun ⟨a, rs⟩ => by simp [Functor.map])
    (fun a f => by simp [bind, pure])
    (fun x f g => by simp [bind, List.append_assoc])

def record (severity : Severity) (message : String) : Logged Unit := ⟨(), [⟨severity, message⟩]⟩

def debug (message : String) : Logged Unit := record .debug message

def info (message : String) : Logged Unit := record .info message

def warning (message : String) : Logged Unit := record .warning message

end Logged

end SchemaPlan
