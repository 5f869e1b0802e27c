import ShallowTransfer.Tagging.Tagger

/-!
Learning rules from a tagged corpus. Starting from the first guesses of the lexicon, every round
looks at the words that are tagged wrongly, takes all instances of the templates there as candidate
rules, and keeps the candidate with the highest net score: the tags it corrects less the tags it
breaks. Candidates that could not beat the best one so far, whatever they break, are not scored.
-/

namespace ShallowTransfer

/-- The options of a learner: the templates of candidate rules, first those preferred among equals,
the least net score of a rule that is kept, and the largest number of rules. -/
structure LearnerOptions where
  templates : List Template
  minScore : UInt64
  maxRules : UInt64
deriving Repr, DecidableEq

namespace LearnerOptions

/-- The options that hold where nothing else is said. -/
def default : LearnerOptions := ⟨Template.all, 1, 200⟩

/-- Checks that there are templates, each of them once, and that rules have to correct something. -/
def check (o : LearnerOptions) : Except ConfigError Unit :=
  if o.templates.isEmpty then .error .emptyTemplateSet
  else
    match firstRepeated [] o.templates with
    | some t => .error (.duplicateTemplate t.name)
    | none => if o.minScore = 0 then .error .zeroMinScore else .ok ()

/-- The least net score of a rule that is kept. Scores are signed, so a number with the highest of
its 64 bits set stands for a negative one. -/
def threshold (o : LearnerOptions) : Int :=
  o.minScore.toInt64.toInt

end LearnerOptions

/-- How many tags a rule corrects and how many it breaks. -/
structure Score where
  good : Nat
  bad : Nat
deriving Repr, DecidableEq

/-- The tags a rule corrects less those it breaks. -/
def Score.net (s : Score) : Int :=
  (s.good : Int) - (s.bad : Int)

/-- A training sentence as rules see it, with the tags it should have. -/
structure Sample where
  seen : List Seen
  gold : List TagId
deriving Repr, DecidableEq

/-- A place in a training sentence with the tag it should have. -/
structure Site where
  view : View Seen
  gold : TagId

namespace Site

/-- The tag at the place. -/
def tag (s : Site) : TagId :=
  s.view.here.tag

/-- Whether the tag at the place is not the one it should have. -/
def isWrong (s : Site) : Bool :=
  s.tag ≠ s.gold

end Site

namespace Sample

/-- The places of a sample. -/
def sites (s : Sample) : List Site :=
  (views s.seen).zipWith Site.mk s.gold

/-- The sample after a rule. -/
def apply (r : TransformRule) (s : Sample) : Sample :=
  { s with seen := r.apply s.seen }

/-- The sample of a tagged sentence, with the first guesses of a lexicon. -/
def ofSentence (lexicon : Lexicon) (sentence : List (String × Tag)) : Except Error Sample := do
  let gold ← sentence.mapM fun entry => (Lexicon.resolve lexicon.tagSet entry).map (·.2)
  .ok ⟨(Tagging.initial lexicon (sentence.map (·.1))).seen, gold⟩

end Sample

/-- All places of the samples. -/
def allSites (samples : List Sample) : List Site :=
  samples.flatMap Sample.sites

/-- How many places of the samples are tagged wrongly. -/
def errorCount (samples : List Sample) : Nat :=
  (allSites samples).countP Site.isWrong

/-- The score of a rule on the given places. -/
def TransformRule.scoreOn (r : TransformRule) (sites : List Site) : Score :=
  let fired := sites.filter fun s => r.fires s.view
  ⟨fired.countP fun s => s.gold = r.target, fired.countP fun s => s.gold ≠ r.target && s.gold = r.source⟩

/-- A rule with the place of its template among those of the learner. -/
structure Candidate where
  rank : Nat
  rule : TransformRule
deriving Repr, DecidableEq

namespace Candidate

/-- A candidate as a list of numbers. Candidates are ordered like these lists. -/
def key (c : Candidate) : List Nat :=
  c.rank :: c.rule.key

/-- Whether a candidate comes before another one or in the same place. -/
def le (a b : Candidate) : Bool :=
  !List.lex b.key a.key Nat.blt

/-- The candidates at a wrongly tagged place. -/
def atSite (templates : List Template) (s : Site) : List Candidate :=
  templates.zipIdx.filterMap fun t =>
    (t.1.instantiate s.view).map fun context => ⟨t.2, ⟨s.tag, s.gold, context⟩⟩

/-- The candidates at all wrongly tagged places. -/
def all (templates : List Template) (sites : List Site) : List Candidate :=
  (sites.filter Site.isWrong).flatMap (atSite templates)

end Candidate

/-- What is known of the places before the candidates are scored: how often each tag stands in place
of each other one, and the places by their tags. -/
structure Survey where
  confusions : OrderedMap (TagId × TagId) Nat
  places : OrderedMap TagId (List Site)

namespace Survey

/-- Counts a wrongly tagged place. -/
def countConfusion (m : OrderedMap (TagId × TagId) Nat) (s : Site) :
    OrderedMap (TagId × TagId) Nat :=
  if s.isWrong then m.alter (s.tag, s.gold) fun n => n.getD 0 + 1 else m

/-- Files a place under its tag, before those filed so far. -/
def file (m : OrderedMap TagId (List Site)) (s : Site) : OrderedMap TagId (List Site) :=
  m.alter s.tag fun sites => s :: sites.getD []

/-- The survey of the places. -/
def ofSites (sites : List Site) : Survey :=
  ⟨sites.foldl countConfusion OrderedMap.empty, sites.foldl file OrderedMap.empty⟩

end Survey

/-- The best rule so far with its score. -/
abbrev Best := Option (TransformRule × Score)

/-- The net score a rule has to exceed to become the best one. -/
def Best.net (b : Best) : Int :=
  match b with
  | some (_, score) => score.net
  | none => 0

/-- Tries one candidate against the best rule so far. A rule corrects at most the places where its
source tag stands in place of its target tag, so it is not scored when these are too few. -/
def Survey.challenge (survey : Survey) (best : Best) (c : Candidate) : Best :=
  match survey.confusions.get? (c.rule.source, c.rule.target), survey.places.get? c.rule.source with
  | some bound, some sites =>
    if (bound : Int) ≤ best.net then best
    else
      let score := c.rule.scoreOn sites
      if best.net < score.net then some (c.rule, score) else best
  | _, _ => best

/-- The rule with the highest positive net score. Among equals the template that is listed first
wins, then the first rule. -/
def bestRule (templates : List Template) (samples : List Sample) : Best :=
  let sites := allSites samples
  let candidates := (Candidate.all templates sites).mergeSort Candidate.le
  candidates.foldl (Survey.ofSites sites).challenge none

/-- A rule that was kept, with its score and the errors left after it. -/
structure Lesson where
  rule : TransformRule
  score : Score
  errorsLeft : Nat
deriving Repr, DecidableEq

/-- A course of learning: the number of words, the errors of the first guesses and the rules that
were kept. -/
structure Course where
  tokens : Nat
  initialErrors : Nat
  lessons : List Lesson
deriving Repr, DecidableEq

namespace Course

/-- The learned rules. -/
def rules (c : Course) : RuleList :=
  ⟨c.lessons.map Lesson.rule⟩

/-- The errors left after all rules. -/
def errorsLeft (c : Course) : Nat :=
  (c.lessons.getLast?.map Lesson.errorsLeft).getD c.initialErrors

/-- The report of the rule at an index. -/
def lessonRecord (s : TagSet) (lesson : Lesson × Nat) : Record :=
  ⟨.info, "Rule #" ++ toString lesson.2 ++ ": " ++ lesson.1.rule.render s ++ " (+" ++
    toString lesson.1.score.good ++ " -" ++ toString lesson.1.score.bad ++ "), " ++
    toString lesson.1.errorsLeft ++ " errors left."⟩

/-- The report that there are as many rules as there may be. -/
def limitRecords (c : Course) (o : LearnerOptions) : Journal :=
  if c.errorsLeft ≠ 0 && Nat.ble o.maxRules.toNat c.lessons.length then
    [⟨.warn, "Stopped after the maximum of " ++ toString o.maxRules ++ " rules with " ++
      toString c.errorsLeft ++ " errors left."⟩]
  else []

/-- What is reported while learning. -/
def journal (c : Course) (o : LearnerOptions) (s : TagSet) : Journal :=
  ⟨.info, "Learning rules from " ++ toString c.tokens ++ " tokens with " ++
    toString c.initialErrors ++ " initial errors."⟩ ::
  (c.lessons.zipIdx.map (lessonRecord s) ++ c.limitRecords o ++
    [⟨.info, "Learned " ++ toString c.lessons.length ++ " rules."⟩])

end Course

/-- A learner with options that passed the check. -/
structure Learner where
  options : LearnerOptions
  sound : options.check = .ok ()

namespace Learner

/-- The learner with the given options. -/
def ofOptions (options : LearnerOptions) : Except ConfigError Learner :=
  match h : options.check with
  | .ok () => .ok ⟨options, h⟩
  | .error e => .error e

/-- The next rule to keep, if the learner may keep one more after `learned` rules. -/
def nextRule? (l : Learner) (learned : Nat) (samples : List Sample) : Best :=
  if errorCount samples = 0 || Nat.ble l.options.maxRules.toNat learned then none
  else
    match bestRule l.options.templates samples with
    | some (rule, score) => if l.options.threshold ≤ score.net then some (rule, score) else none
    | none => none

/-- The rounds after `learned` rules. Every rule that is kept corrects an error, so the number of
errors bounds the number of rounds. -/
def rounds (l : Learner) : Nat → Nat → List Sample → List Lesson
  | 0, _, _ => []
  | fuel + 1, learned, samples =>
    match l.nextRule? learned samples with
    | none => []
    | some (rule, score) =>
      let next := samples.map (Sample.apply rule)
      ⟨rule, score, errorCount next⟩ :: l.rounds fuel (learned + 1) next

/-- The course of learning on samples. -/
def study (l : Learner) (samples : List Sample) : Course :=
  let errors := errorCount samples
  ⟨(allSites samples).length, errors, l.rounds errors 0 samples⟩

/-- Learns the rules that correct the first guesses of a lexicon on a corpus. -/
def learn (l : Learner) (corpus : Corpus) (lexicon : Lexicon) : Except Error Course := do
  let samples ← corpus.mapM (Sample.ofSentence lexicon)
  .ok (l.study samples)

/-- Makes a lexicon from a corpus, and the tagger with the rules that correct it there. -/
def train (l : Learner) (corpus : Corpus) (options : LexiconOptions) : Except Error Tagger := do
  let lexicon ← Lexicon.ofCorpus corpus options
  let course ← l.learn corpus lexicon
  match Tagger.ofRules lexicon course.rules with
  | .ok tagger => .ok tagger
  | .error e => .error (.config e)

end Learner

end ShallowTransfer
