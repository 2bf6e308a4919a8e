/-!
# Powers

A power with a natural exponent is the core library's in every module, whatever algebra the module
imports beside it.
-/

namespace LoanBook

@[default_instance 20000]
instance (priority := 20000) powNat {α : Type} [NatPow α] : Pow α Nat := instPowNat

end LoanBook
