import Inquiry.Token

set_option autoImplicit false

namespace Inquiry

structure Lookahead where
  buffer : List Token
  source : List Token

namespace Lookahead

def ofTokens (tokens : List Token) : Lookahead := ⟨[], tokens⟩

def fill (stream : Lookahead) (count : Nat) : Lookahead :=
  let missing := count - stream.buffer.length
  ⟨stream.buffer ++ stream.source.take missing, stream.source.drop missing⟩

def peekNth (stream : Lookahead) (n : Nat) : Option Token × Lookahead :=
  let filled := stream.fill (n + 1)
  (filled.buffer[n]?, filled)

def peek (stream : Lookahead) : Option Token × Lookahead := stream.peekNth 0

def consume (stream : Lookahead) : Option Token × Lookahead :=
  let filled := stream.fill 1
  (filled.buffer.head?, { filled with buffer := filled.buffer.tail })

def peekIs (stream : Lookahead) (test : TokenKind → Bool) : Bool × Lookahead :=
  let (token?, filled) := stream.peek
  (token?.any fun token => test token.kind, filled)

def isAtEnd (stream : Lookahead) : Bool × Lookahead :=
  let (token?, filled) := stream.peek
  (token?.all fun token => token.kind.isEnd, filled)

def bufferedCount (stream : Lookahead) : Nat := stream.buffer.length

end Lookahead

end Inquiry
