import StackDepth.Json.Record
import StackDepth.Program

namespace StackDepth

open Json

structure Plan where
  hints : List Chain
  queries : List String
  deriving DecidableEq, Repr

def Chain.codec : Codec Chain := .list .text

def Chain.caller? (chain : Chain) : Option String := chain.head?

namespace Plan

/-- A plan without hints may leave them out. -/
def hintsField : Field := ⟨"call_hints", List Chain, .list Chain.codec, some []⟩

def queriesField : Field := ⟨"queries", List String, .list .text, none⟩

def fields : List Field := [hintsField, queriesField]

def codec : Codec Plan :=
  .record fields (fun (hints, queries, ()) ↦ ⟨hints, queries⟩)
    (fun p ↦ (p.hints, p.queries, ()))

def hashChain (update block : String) : Chain :=
  [update, "cf_blockwise_accumulate", "cf_blockwise_accumulate_final", block]

def builtin : Plan where
  hints :=
    [hashChain "cf_sha224_update" "sha256_update_block",
      hashChain "cf_sha256_update" "sha256_update_block",
      hashChain "cf_sha384_update" "sha512_update_block",
      hashChain "cf_sha512_update" "sha512_update_block"]
  queries := ["hashtest_sha256", "hashtest_sha512", "stack_8w", "stack_64w"]

def applyHints (plan : Plan) (p : Program) : Program :=
  p.withHints plan.hints

end Plan

end StackDepth
