/-!
Powers with natural exponents: they are those of the core library, also where other instances are
in scope.
-/

attribute [instance (2000)] instPowNat
attribute [default_instance 20000] instPowNat
