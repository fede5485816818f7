/-!
# Playing cards

The deck that both players shuffle: 52 cards in four suits of thirteen ranks.
Before any shuffle the cards lie suit by suit and, within a suit, rank by rank,
so that a place in the deck names the same card to both players.

* `ofIndex?_index`: the place of a card is where the card is found.
-/

namespace ShuffleWatch

/-- The four suits. -/
inductive Suit
  | spades
  | hearts
  | diamonds
  | clubs
  deriving DecidableEq

/-- The thirteen ranks. -/
inductive Rank
  | ace
  | two
  | three
  | four
  | five
  | six
  | seven
  | eight
  | nine
  | ten
  | jack
  | queen
  | king
  deriving DecidableEq

namespace Suit

/-- Every suit, in the order of the deck. -/
def all : List Suit := [spades, hearts, diamonds, clubs]

/-- The place of the suit among the suits. -/
def rank : Suit → Nat
  | spades => 0
  | hearts => 1
  | diamonds => 2
  | clubs => 3

/-- The name of the suit. -/
def name : Suit → String
  | spades => "Spades"
  | hearts => "Hearts"
  | diamonds => "Diamonds"
  | clubs => "Clubs"

/-- The sign of the suit. -/
def symbol : Suit → Char
  | spades => '♠'
  | hearts => '♥'
  | diamonds => '♦'
  | clubs => '♣'

/-- The suit of this name. -/
def ofName? (name : String) : Option Suit := all.find? (·.name == name)

end Suit

namespace Rank

/-- Every rank, in the order of the deck. -/
def all : List Rank :=
  [ace, two, three, four, five, six, seven, eight, nine, ten, jack, queen, king]

/-- The value of a card of the rank, from 1 for an ace to 13 for a king. -/
def value : Rank → Nat
  | ace => 1
  | two => 2
  | three => 3
  | four => 4
  | five => 5
  | six => 6
  | seven => 7
  | eight => 8
  | nine => 9
  | ten => 10
  | jack => 11
  | queen => 12
  | king => 13

/-- The name of the rank. -/
def name : Rank → String
  | ace => "Ace"
  | two => "Two"
  | three => "Three"
  | four => "Four"
  | five => "Five"
  | six => "Six"
  | seven => "Seven"
  | eight => "Eight"
  | nine => "Nine"
  | ten => "Ten"
  | jack => "Jack"
  | queen => "Queen"
  | king => "King"

/-- What is printed on a card of the rank. -/
def label : Rank → String
  | ace => "A"
  | jack => "J"
  | queen => "Q"
  | king => "K"
  | r => toString r.value

/-- The rank of this name. -/
def ofName? (name : String) : Option Rank := all.find? (·.name == name)

end Rank

/-- A card: two cards of the same suit and rank are the same card. -/
structure Card where
  suit : Suit
  rank : Rank
  deriving DecidableEq

namespace Card

/-- The deck before any shuffle. -/
def deck : List Card := Suit.all.flatMap fun s => Rank.all.map (Card.mk s)

/-- The place of the card in the deck, counted from zero. -/
def index (c : Card) : Nat := 13 * c.suit.rank + (c.rank.value - 1)

/-- The card at a place of the deck. -/
def ofIndex? (i : Nat) : Option Card := deck[i]?

/-- The sign of the suit and the label of the rank. -/
def render (c : Card) : String := c.suit.symbol.toString ++ c.rank.label

theorem ofIndex?_index (c : Card) : ofIndex? c.index = some c := by
  obtain ⟨s, r⟩ := c
  cases s <;> cases r <;> rfl

theorem length_deck : deck.length = 52 := rfl

end Card

end ShuffleWatch
