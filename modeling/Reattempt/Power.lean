/-!
Powers. A power with a written exponent, such as `2 ^ 64`, is the one that comes with the numbers
themselves, also where other instances are in scope; where the exponent is computed the power is
written as `Nat.pow`. A bound is then the same term wherever it stands.
-/
namespace Reattempt

attribute [default_instance 20000] instPowNat

end Reattempt
