/-!
# Words and phrases

The words and phrases that style suggestions look for.
-/
namespace DocLint.Prose

def weaselWords : List String :=
  ["clearly", "completely", "exceedingly", "excellent", "extremely", "fairly", "few", "huge",
    "interestingly", "largely", "many", "mostly", "quite", "relatively", "remarkably", "several",
    "significantly", "substantially", "surprisingly", "tiny", "various", "vast", "very"]

def weakAdverbs : List String :=
  ["actually", "basically", "certainly", "definitely", "essentially", "generally", "maybe",
    "perhaps", "probably", "really", "simply", "totally", "truly", "usually"]

def wordyPhrases : List String :=
  ["a number of", "at this point in time", "due to the fact that", "for the purpose of",
    "has the ability to", "in order to", "in the event that", "is able to",
    "it is important to note", "with regard to"]

def wornPhrases : List String :=
  ["at the end of the day", "avoid like the plague", "in a nutshell", "last but not least",
    "low-hanging fruit", "think outside the box", "the bottom line"]

/-- Forms of "to be" that introduce a passive. -/
def auxiliaries : List String :=
  ["am", "are", "were", "being", "is", "been", "was", "be"]

def irregularParticiples : List String :=
  ["been", "begun", "broken", "brought", "built", "chosen", "done", "driven", "eaten", "found",
    "forgotten", "given", "held", "hidden", "kept", "known", "left", "lost", "made", "meant",
    "paid", "put", "read", "said", "seen", "sent", "set", "shown", "sold", "spent", "spoken",
    "taken", "taught", "thought", "told", "understood", "won", "written"]

end DocLint.Prose
