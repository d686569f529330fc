/-!
The kinds of build, and what is taken from which of them.

* The default of one setting differs between the two, `Settings.defaults`.
* Sums of a fixed width are those of a development build, whose arithmetic is checked: one that does not fit stops the
  call it is made in. This is so of a group's revision and of the number of an attempt in `Client.changeGuarded` and
  `Client.retryMembership`.
* What is open at a time is counted by a plain number where 32 bits are kept for it: the holds of a lock in
  `Lock.Reentrant`, and the scopes of a transaction in `Store.Transaction` and `Store.Memory`. The two differ only once
  2^32 of them are open together. So it is with the recipients that `Store.Memory` ever made, at 2^63.
-/
namespace Enrolment

inductive Build where
  | development
  | release
  deriving DecidableEq, Inhabited

/-- A development build tries the assertions of the program, a release build leaves them out. -/
def Build.asserts : Build → Bool
  | development => true
  | release => false

end Enrolment
