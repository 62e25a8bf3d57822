import Gatehouse.Role.Mapping

/-!
# Paths that need no credential

A path that some pattern of the allowlist matches is open to everyone.  The paths of the
realtime service look after themselves.
-/

namespace Gatehouse

/-- The patterns of the open paths. -/
structure Allowlist (P : Type) where
  patterns : List P

namespace Allowlist

/-- Whether a path is open. -/
def allows {P : Type} (m : Matcher P) (list : Allowlist P) (path : String) : Bool :=
  list.patterns.any fun p => m.accepts p path

/-- The allowlist of some patterns, if all of them are well formed. -/
def ofTexts? (texts : List String) : Option (Allowlist Pattern) :=
  (Pattern.compileAll? texts).map Allowlist.mk

end Allowlist

/-- Where the realtime service is. -/
def realtimePath : String := "/rt"

/-- Whether a path belongs to the realtime service. -/
def isRealtimePath (path : String) : Bool :=
  path == realtimePath || (realtimePath ++ "/").toList.isPrefixOf path.toList

end Gatehouse
