import StackDepth.Text.CharSet

namespace StackDepth.Text.Ascii

def lower : CharSet := .ofRuns [(0x61, 0x7A)]

def upper : CharSet := .ofRuns [(0x41, 0x5A)]

def digits : CharSet := .ofRuns [(0x30, 0x39)]

def space : CharSet := .ofRuns [(0x09, 0x0D), (0x20, 0x20)]

def word : CharSet := .ofRuns [(0x30, 0x39), (0x41, 0x5A), (0x5F, 0x5F), (0x61, 0x7A)]

def classes : List (String × CharSet) :=
  [("alnum", .ofRuns [(0x30, 0x39), (0x41, 0x5A), (0x61, 0x7A)]),
    ("alpha", .ofRuns [(0x41, 0x5A), (0x61, 0x7A)]), ("ascii", .ofRuns [(0x00, 0x7F)]),
    ("blank", .ofRuns [(0x09, 0x09), (0x20, 0x20)]),
    ("cntrl", .ofRuns [(0x00, 0x1F), (0x7F, 0x7F)]), ("digit", digits),
    ("graph", .ofRuns [(0x21, 0x7E)]), ("lower", lower), ("print", .ofRuns [(0x20, 0x7E)]),
    ("punct", .ofRuns [(0x21, 0x2F), (0x3A, 0x40), (0x5B, 0x60), (0x7B, 0x7E)]),
    ("space", space), ("upper", upper), ("word", word),
    ("xdigit", .ofRuns [(0x30, 0x39), (0x41, 0x46), (0x61, 0x66)])]

end StackDepth.Text.Ascii
