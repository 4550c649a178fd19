import Colloquy.Render.Basic

/-!
# The settings of a bot
-/

namespace Colloquy

/-- What can be set about a bot. -/
structure Settings where
  recursionLimit : Nat := 50
  reductionLimit : Nat := 1000
  /-- The value of predicates that were never set. -/
  defaultPredicate : Text := []
  /-- What happens to a rule when another comes to its address. -/
  policy : Policy := .overwrite
  appetite : Appetite := .greedy
  wildcardPairs : Bool := false
  setRendersValue : Bool := true
  /-- How many exchanges a conversation keeps. -/
  historyLimit : Nat := 10
  /-- What stands in the place of a reduction beyond a limit. -/
  fallback : Text := []
  /-- Where the choices by chance begin. -/
  seed? : Option UInt64 := none
  version : Text := "Parley 0.1.0".toList
  deriving DecidableEq, Repr

namespace Settings

/-- How the rules of the bot are matched. -/
def matchOptions (s : Settings) : MatchOptions :=
  { appetite := s.appetite, wildcardPairs := s.wildcardPairs }

/-- How the bot renders its replies. -/
def manner (s : Settings) : Manner :=
  { recursionLimit := s.recursionLimit
    reductionLimit := s.reductionLimit
    fallback := s.fallback
    defaultPredicate := s.defaultPredicate
    setRendersValue := s.setRendersValue
    version := s.version }

end Settings

end Colloquy
