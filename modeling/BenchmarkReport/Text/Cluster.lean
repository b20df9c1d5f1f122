/-
This file groups the characters of a text into clusters that a reader sees as one.
-/

import BenchmarkReport.Text.ClusterRanges
import BenchmarkReport.Text.Ranges

namespace BenchmarkReport.Text

/-- The part that a character plays at the limit between two clusters. -/
inductive ClusterRole
  | carriageReturn
  | lineFeed
  | control
  | extend
  | linker
  | nonJoiner
  | joiner
  | spacingMark
  | prepend
  | regional
  | leadingJamo
  | vowelJamo
  | trailingJamo
  | openSyllable
  | closedSyllable
  | picture
  | consonant
  | other
  deriving DecidableEq, Repr

def ClusterRole.ofChar (symbol : Char) : ClusterRole :=
  let code := symbol.toNat
  if code = 0xD then .carriageReturn
  else if code = 0xA then .lineFeed
  else if 0x20 ≤ code && code ≤ 0x7E then .other
  else if code = 0x200D then .joiner
  else if code = 0x200C then .nonJoiner
  else if inRanges controlRanges symbol then .control
  else if inRanges linkerRanges symbol then .linker
  else if inRanges extendRanges symbol then .extend
  else if inRanges spacingMarkRanges symbol then .spacingMark
  else if inRanges prependRanges symbol then .prepend
  else if 0x1F1E6 ≤ code && code ≤ 0x1F1FF then .regional
  else if inRanges [(0x1100, 0x115F), (0xA960, 0xA97C)] symbol then .leadingJamo
  else if inRanges [(0x1160, 0x11A7), (0xD7B0, 0xD7C6), (0x16D63, 0x16D63),
    (0x16D67, 0x16D6A)] symbol then .vowelJamo
  else if inRanges [(0x11A8, 0x11FF), (0xD7CB, 0xD7FB)] symbol then .trailingJamo
  else if 0xAC00 ≤ code && code ≤ 0xD7A3 then
    if (code - 0xAC00) % 28 = 0 then .openSyllable else .closedSyllable
  else if inRanges pictographicRanges symbol then .picture
  else if inRanges consonantRanges symbol then .consonant
  else .other

/-- These characters extend every cluster. -/
def ClusterRole.extends : ClusterRole → Bool
  | .extend => true
  | .linker => true
  | .nonJoiner => true
  | _ => false

/-- A consonant may be linked to the next one by the marks after it. -/
inductive ConsonantState
  | absent
  | unlinked
  | linked
  deriving DecidableEq, Repr

def ConsonantState.next : ConsonantState → ClusterRole → ConsonantState
  | _, .consonant => .unlinked
  | .absent, _ => .absent
  | _, .linker => .linked
  | state, .extend => state
  | state, .joiner => state
  | _, _ => .absent

/-- What the next limit has to know of the cluster so far. -/
structure ClusterState where
  role : ClusterRole
  /-- The cluster ends with a picture and marks that extend it. -/
  extendedPicture : Bool
  /-- A joiner follows such a picture. -/
  joinedPicture : Bool
  /-- An odd number of regional indicators has been seen. -/
  unpairedRegional : Bool
  /-- The cluster ends with a consonant and marks that do not part it from the next one. -/
  consonant : ConsonantState

def ClusterState.start (role : ClusterRole) : ClusterState :=
  { role
    extendedPicture := role == .picture
    joinedPicture := false
    unpairedRegional := role == .regional
    consonant := ConsonantState.absent.next role }

/-- A character of the given role stays in the cluster. -/
def ClusterState.holds (state : ClusterState) (next : ClusterRole) : Bool :=
  match state.role, next with
  | .carriageReturn, .lineFeed => true
  | .carriageReturn, _ | .lineFeed, _ | .control, _ => false
  | _, .carriageReturn | _, .lineFeed | _, .control => false
  | _, .joiner | _, .spacingMark => true
  | .prepend, _ => true
  | .leadingJamo, .leadingJamo | .leadingJamo, .vowelJamo => true
  | .leadingJamo, .openSyllable | .leadingJamo, .closedSyllable => true
  | .openSyllable, .vowelJamo | .openSyllable, .trailingJamo => true
  | .vowelJamo, .vowelJamo | .vowelJamo, .trailingJamo => true
  | .closedSyllable, .trailingJamo | .trailingJamo, .trailingJamo => true
  | .joiner, .picture => state.joinedPicture
  | .regional, .regional => state.unpairedRegional
  | _, .consonant => state.consonant == .linked
  | _, _ => next.extends

def ClusterState.extend (state : ClusterState) (next : ClusterRole) : ClusterState :=
  { role := next
    extendedPicture := next == .picture || (state.extendedPicture && next.extends)
    joinedPicture := state.extendedPicture && next == .joiner
    unpairedRegional := next == .regional && !state.unpairedRegional
    consonant := state.consonant.next next }

/-- The clusters of a text that continues a cluster in the given state. The first cluster of the
result is the rest of that cluster. -/
def continueClusters : ClusterState → List Char → List Char × List (List Char)
  | _, [] => ([], [])
  | state, symbol :: rest =>
    let role := ClusterRole.ofChar symbol
    if state.holds role then
      let (current, later) := continueClusters (state.extend role) rest
      (symbol :: current, later)
    else
      let (current, later) := continueClusters (.start role) rest
      ([], (symbol :: current) :: later)

def clusters : List Char → List (List Char)
  | [] => []
  | symbol :: rest =>
    let (current, later) := continueClusters (.start (.ofChar symbol)) rest
    (symbol :: current) :: later

theorem continueClusters_flatten (state : ClusterState) (text : List Char) :
    (continueClusters state text).1 ++ (continueClusters state text).2.flatten = text := by
  induction text generalizing state with
  | nil => rfl
  | cons symbol rest inductionHypothesis =>
      rw [continueClusters]
      split
      · simpa using inductionHypothesis (state.extend (.ofChar symbol))
      · simpa using inductionHypothesis (.start (.ofChar symbol))

/-- No character is lost between the clusters. -/
theorem clusters_flatten (text : List Char) : (clusters text).flatten = text := by
  cases text with
  | nil => rfl
  | cons symbol rest =>
      simpa [clusters] using continueClusters_flatten (.start (.ofChar symbol)) rest

end BenchmarkReport.Text
