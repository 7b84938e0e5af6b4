import RecordSchema.Text.Cluster.Property

/-!
# Grapheme clusters

A text is a sequence of user-perceived characters, the extended grapheme clusters of the Unicode
standard: a letter with its accents, a Hangul syllable, a conjunct, a flag, a joined pictograph.
-/

namespace RecordSchema.Text

/-- What a character is to the cluster rules. -/
inductive ClusterClass where
  | carriageReturn
  | lineFeed
  | control
  | extend
  | joiner
  | spacingMark
  | prepend
  | regional
  | leading
  | vowel
  | trailing
  | openSyllable
  | closedSyllable
  | other
deriving DecidableEq

/-- The class of a character. -/
def clusterClass (c : Char) : ClusterClass :=
  if c = '\r' then .carriageReturn
  else if c = '\n' then .lineFeed
  else if c.toNat < 0x7F then if c.toNat < 0x20 then .control else .other
  else if c.toNat = 0x200D then .joiner
  else if extending.contains c || emojiModifiers.contains c then .extend
  else if spacingMarks.contains c then .spacingMark
  else if prepended.contains c then .prepend
  else if controls.contains c then .control
  else if 0x1F1E6 ≤ c.toNat ∧ c.toNat ≤ 0x1F1FF then .regional
  else if hangulLeading.contains c then .leading
  else if hangulVowels.contains c then .vowel
  else if hangulTrailing.contains c then .trailing
  else if 0xAC00 ≤ c.toNat ∧ c.toNat ≤ 0xD7A3 then
    if (c.toNat - 0xAC00) % 28 = 0 then .openSyllable else .closedSyllable
  else .other

/-- A character that ends a cluster and begins one: control, carriage return or line feed. -/
def ClusterClass.stands : ClusterClass → Bool
  | .carriageReturn | .lineFeed | .control => true
  | _ => false

/-- Hangul pieces that continue a syllable. -/
def ClusterClass.continuesSyllable : ClusterClass → ClusterClass → Bool
  | .leading, .leading | .leading, .vowel | .leading, .openSyllable
  | .leading, .closedSyllable => true
  | .openSyllable, .vowel | .openSyllable, .trailing => true
  | .vowel, .vowel | .vowel, .trailing => true
  | .closedSyllable, .trailing | .trailing, .trailing => true
  | _, _ => false

/-- Marks that may stand between the consonants of a conjunct. -/
def isConjunctMark (c : Char) : Bool :=
  conjunctLinkers.contains c ||
    ((clusterClass c == .extend || clusterClass c == .joiner) && c.toNat != 0x200C)

/-- The characters of a cluster, last first, end in a consonant and marks with a linker among
them. -/
def awaitsConsonant (cluster : List Char) : Bool :=
  (cluster.takeWhile isConjunctMark).any conjunctLinkers.contains &&
    ((cluster.dropWhile isConjunctMark).head?.any conjunctConsonants.contains)

/-- The characters of a cluster, last first, end in a pictograph, marks and a joiner. -/
def awaitsPictograph : List Char → Bool
  | c :: rest =>
    clusterClass c == .joiner &&
      ((rest.dropWhile (clusterClass · == .extend)).head?.any pictographs.contains)
  | [] => false

/-- The cluster whose characters are given, last first, goes on with the next character. -/
def joinsCluster (cluster : List Char) (next : Char) : Bool :=
  match cluster with
  | [] => true
  | last :: _ =>
    let l := clusterClass last
    let n := clusterClass next
    if l == .carriageReturn && n == .lineFeed then true
    else if l.stands || n.stands then false
    else if l.continuesSyllable n then true
    else if n == .extend || n == .joiner || n == .spacingMark || l == .prepend then true
    else if conjunctConsonants.contains next && awaitsConsonant cluster then true
    else if pictographs.contains next && awaitsPictograph cluster then true
    else if n == .regional then (cluster.takeWhile (clusterClass · == .regional)).length % 2 == 1
    else false

/-- The clusters of a text, after the characters of an open cluster, last first. -/
def clustersAfter (cluster : List Char) : List Char → List (List Char)
  | [] => [cluster.reverse]
  | c :: rest =>
    if joinsCluster cluster c then
      clustersAfter (c :: cluster) rest
    else
      cluster.reverse :: clustersAfter [c] rest

/-- The clusters of a text. -/
def clusters : List Char → List (List Char)
  | [] => []
  | c :: rest => clustersAfter [c] rest

end RecordSchema.Text
