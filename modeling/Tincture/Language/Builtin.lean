/-!
# Built-in files

The grammar and the language configuration of Typst, as they are always at hand.
-/

namespace Tincture.Builtin

/-- The path under which the Typst grammar is declared. -/
def typstGrammarPath : String := "typst.tmLanguage.json"

/-- The Typst grammar. -/
def typstGrammar : String := r###"{
  "name": "Typst",
  "scopeName": "source.typst",
  "fileTypes": [
    "typ"
  ],
  "patterns": [
    {
      "include": "#markup"
    }
  ],
  "repository": {
    "markup": {
      "patterns": [
        {
          "include": "#comments"
        },
        {
          "include": "#raw"
        },
        {
          "include": "#escape"
        },
        {
          "include": "#heading"
        },
        {
          "include": "#list"
        },
        {
          "include": "#strong"
        },
        {
          "include": "#emph"
        },
        {
          "include": "#link"
        },
        {
          "include": "#label"
        },
        {
          "include": "#reference"
        },
        {
          "include": "#math"
        },
        {
          "include": "#shorthand"
        },
        {
          "include": "#embedded_code"
        }
      ]
    },
    "comments": {
      "patterns": [
        {
          "name": "comment.block.typst",
          "begin": "/\\*",
          "end": "\\*/",
          "captures": {
            "0": {
              "name": "punctuation.definition.comment.typst"
            }
          },
          "patterns": [
            {
              "include": "#comments"
            }
          ]
        },
        {
          "name": "comment.line.double-slash.typst",
          "match": "(//).*",
          "captures": {
            "1": {
              "name": "punctuation.definition.comment.typst"
            }
          }
        }
      ]
    },
    "raw": {
      "patterns": [
        {
          "name": "markup.raw.block.typst",
          "begin": "(`{3,})(\\w*)",
          "end": "\\1",
          "beginCaptures": {
            "1": {
              "name": "punctuation.definition.raw.begin.typst"
            },
            "2": {
              "name": "fenced_code.block.language.typst"
            }
          },
          "endCaptures": {
            "0": {
              "name": "punctuation.definition.raw.end.typst"
            }
          }
        },
        {
          "name": "markup.raw.inline.typst",
          "match": "(`)([^`]*)(`)",
          "captures": {
            "1": {
              "name": "punctuation.definition.raw.begin.typst"
            },
            "3": {
              "name": "punctuation.definition.raw.end.typst"
            }
          }
        }
      ]
    },
    "escape": {
      "name": "constant.character.escape.typst",
      "match": "\\\\(?:u\\{[0-9a-fA-F]+\\}|\\S)?"
    },
    "heading": {
      "name": "markup.heading.typst",
      "begin": "^\\s*(=+)(?:\\s|$)",
      "end": "$",
      "beginCaptures": {
        "1": {
          "name": "punctuation.definition.heading.typst"
        }
      },
      "patterns": [
        {
          "include": "#markup"
        }
      ]
    },
    "list": {
      "patterns": [
        {
          "name": "markup.list.unnumbered.typst",
          "match": "^\\s*(-)(?=\\s)",
          "captures": {
            "1": {
              "name": "punctuation.definition.list.typst"
            }
          }
        },
        {
          "name": "markup.list.numbered.typst",
          "match": "^\\s*(\\+|\\d+\\.)(?=\\s)",
          "captures": {
            "1": {
              "name": "punctuation.definition.list.typst"
            }
          }
        },
        {
          "name": "markup.list.term.typst",
          "match": "^\\s*(/)\\s+([^:]*)(:)",
          "captures": {
            "1": {
              "name": "punctuation.definition.list.typst"
            },
            "2": {
              "name": "markup.bold.term.typst"
            },
            "3": {
              "name": "punctuation.separator.term.typst"
            }
          }
        }
      ]
    },
    "strong": {
      "name": "markup.bold.typst",
      "begin": "(\\*)(?=\\S)",
      "end": "(\\*)|(?=$)",
      "beginCaptures": {
        "1": {
          "name": "punctuation.definition.bold.typst"
        }
      },
      "endCaptures": {
        "1": {
          "name": "punctuation.definition.bold.typst"
        }
      },
      "patterns": [
        {
          "include": "#inline"
        }
      ]
    },
    "emph": {
      "name": "markup.italic.typst",
      "begin": "\\b(_)(?=\\S)",
      "end": "(_)\\b|(?=$)",
      "beginCaptures": {
        "1": {
          "name": "punctuation.definition.italic.typst"
        }
      },
      "endCaptures": {
        "1": {
          "name": "punctuation.definition.italic.typst"
        }
      },
      "patterns": [
        {
          "include": "#inline"
        }
      ]
    },
    "inline": {
      "patterns": [
        {
          "include": "#comments"
        },
        {
          "include": "#raw"
        },
        {
          "include": "#escape"
        },
        {
          "include": "#link"
        },
        {
          "include": "#label"
        },
        {
          "include": "#reference"
        },
        {
          "include": "#math"
        },
        {
          "include": "#embedded_code"
        }
      ]
    },
    "link": {
      "name": "markup.underline.link.typst",
      "match": "https?://[^\\s\\]\\)>]*"
    },
    "label": {
      "name": "entity.other.label.typst",
      "match": "(<)([\\w\\-.:]+)(>)",
      "captures": {
        "1": {
          "name": "punctuation.definition.label.typst"
        },
        "3": {
          "name": "punctuation.definition.label.typst"
        }
      }
    },
    "reference": {
      "name": "markup.other.reference.typst",
      "match": "(@)([\\w\\-.:]*[\\w\\-])",
      "captures": {
        "1": {
          "name": "punctuation.definition.reference.typst"
        }
      }
    },
    "shorthand": {
      "name": "constant.character.shorthand.typst",
      "match": "---|--|\\.\\.\\.|~"
    },
    "math": {
      "name": "string.other.math.typst",
      "begin": "\\$",
      "end": "\\$",
      "captures": {
        "0": {
          "name": "punctuation.definition.math.typst"
        }
      },
      "patterns": [
        {
          "include": "#comments"
        },
        {
          "include": "#escape"
        },
        {
          "include": "#embedded_code"
        },
        {
          "include": "#strings"
        },
        {
          "name": "entity.name.function.math.typst",
          "match": "\\b[a-zA-Z][\\w.]*(?=\\()"
        },
        {
          "name": "constant.numeric.math.typst",
          "match": "\\b\\d+(?:\\.\\d+)?\\b"
        },
        {
          "name": "keyword.operator.math.typst",
          "match": "[=+\\-*/^_<>!&]|\\\\"
        }
      ]
    },
    "embedded_code": {
      "patterns": [
        {
          "name": "meta.expr.typst",
          "begin": "(#)(?=(?:let|set|show|import|include|if|for|while|return|context|break|continue)\\b)",
          "end": "(;)|(?=$)",
          "beginCaptures": {
            "1": {
              "name": "punctuation.definition.hash.typst"
            }
          },
          "endCaptures": {
            "1": {
              "name": "punctuation.terminator.statement.typst"
            }
          },
          "patterns": [
            {
              "include": "#code"
            }
          ]
        },
        {
          "name": "meta.block.typst",
          "begin": "(#)(\\{)",
          "end": "\\}",
          "beginCaptures": {
            "1": {
              "name": "punctuation.definition.hash.typst"
            },
            "2": {
              "name": "punctuation.definition.block.begin.typst"
            }
          },
          "endCaptures": {
            "0": {
              "name": "punctuation.definition.block.end.typst"
            }
          },
          "patterns": [
            {
              "include": "#code"
            }
          ]
        },
        {
          "name": "meta.group.typst",
          "begin": "(#)(\\()",
          "end": "\\)",
          "beginCaptures": {
            "1": {
              "name": "punctuation.definition.hash.typst"
            },
            "2": {
              "name": "punctuation.definition.group.begin.typst"
            }
          },
          "endCaptures": {
            "0": {
              "name": "punctuation.definition.group.end.typst"
            }
          },
          "patterns": [
            {
              "include": "#code"
            }
          ]
        },
        {
          "name": "meta.function-call.typst",
          "begin": "(#)([a-zA-Z_][\\w-]*(?:\\.[a-zA-Z_][\\w-]*)*)(?=[\\[(])",
          "end": "(?![\\[(])",
          "beginCaptures": {
            "1": {
              "name": "punctuation.definition.hash.typst"
            },
            "2": {
              "name": "entity.name.function.typst"
            }
          },
          "patterns": [
            {
              "include": "#arguments"
            },
            {
              "include": "#content_block"
            }
          ]
        },
        {
          "match": "(#)(none|auto|true|false)\\b",
          "captures": {
            "1": {
              "name": "punctuation.definition.hash.typst"
            },
            "2": {
              "name": "constant.language.typst"
            }
          }
        },
        {
          "match": "(#)([a-zA-Z_][\\w-]*(?:\\.[a-zA-Z_][\\w-]*)*)",
          "captures": {
            "1": {
              "name": "punctuation.definition.hash.typst"
            },
            "2": {
              "name": "variable.other.typst"
            }
          }
        }
      ]
    },
    "code": {
      "patterns": [
        {
          "include": "#comments"
        },
        {
          "include": "#strings"
        },
        {
          "include": "#content_block"
        },
        {
          "include": "#code_block"
        },
        {
          "include": "#numbers"
        },
        {
          "include": "#keywords"
        },
        {
          "include": "#calls"
        },
        {
          "include": "#group"
        },
        {
          "include": "#operators"
        },
        {
          "name": "variable.other.typst",
          "match": "\\b[a-zA-Z_][\\w-]*"
        }
      ]
    },
    "strings": {
      "name": "string.quoted.double.typst",
      "begin": "\"",
      "end": "\"",
      "captures": {
        "0": {
          "name": "punctuation.definition.string.typst"
        }
      },
      "patterns": [
        {
          "name": "constant.character.escape.typst",
          "match": "\\\\(?:[\\\\\\\"nrt]|u\\{[0-9a-fA-F]+\\})"
        }
      ]
    },
    "numbers": {
      "name": "constant.numeric.typst",
      "match": "\\b\\d+(?:\\.\\d+)?(?:e[+-]?\\d+)?(?:pt|mm|cm|in|em|fr|deg|rad|%)?"
    },
    "keywords": {
      "patterns": [
        {
          "name": "keyword.control.typst",
          "match": "\\b(?:if|else|for|in|while|return|break|continue)\\b"
        },
        {
          "name": "keyword.control.import.typst",
          "match": "\\b(?:import|include|as)\\b"
        },
        {
          "name": "storage.type.typst",
          "match": "\\b(?:let|set|show|context)\\b"
        },
        {
          "name": "keyword.operator.word.typst",
          "match": "\\b(?:and|or|not)\\b"
        },
        {
          "name": "constant.language.typst",
          "match": "\\b(?:none|auto|true|false)\\b"
        }
      ]
    },
    "calls": {
      "name": "meta.function-call.typst",
      "begin": "([a-zA-Z_][\\w-]*)(?=\\()",
      "end": "(?![\\[(])",
      "beginCaptures": {
        "1": {
          "name": "entity.name.function.typst"
        }
      },
      "patterns": [
        {
          "include": "#arguments"
        },
        {
          "include": "#content_block"
        }
      ]
    },
    "arguments": {
      "begin": "\\(",
      "end": "\\)",
      "contentName": "meta.function.parameters.typst",
      "beginCaptures": {
        "0": {
          "name": "punctuation.definition.parameters.begin.typst"
        }
      },
      "endCaptures": {
        "0": {
          "name": "punctuation.definition.parameters.end.typst"
        }
      },
      "patterns": [
        {
          "name": "variable.parameter.typst",
          "match": "[a-zA-Z_][\\w-]*(?=\\s*:)"
        },
        {
          "include": "#code"
        }
      ]
    },
    "group": {
      "name": "meta.group.typst",
      "begin": "\\(",
      "end": "\\)",
      "patterns": [
        {
          "include": "#code"
        }
      ]
    },
    "content_block": {
      "name": "meta.content.typst",
      "begin": "\\[",
      "end": "\\]",
      "beginCaptures": {
        "0": {
          "name": "punctuation.definition.content.begin.typst"
        }
      },
      "endCaptures": {
        "0": {
          "name": "punctuation.definition.content.end.typst"
        }
      },
      "patterns": [
        {
          "include": "#markup"
        }
      ]
    },
    "code_block": {
      "name": "meta.block.typst",
      "begin": "\\{",
      "end": "\\}",
      "beginCaptures": {
        "0": {
          "name": "punctuation.definition.block.begin.typst"
        }
      },
      "endCaptures": {
        "0": {
          "name": "punctuation.definition.block.end.typst"
        }
      },
      "patterns": [
        {
          "include": "#code"
        }
      ]
    },
    "operators": {
      "name": "keyword.operator.typst",
      "match": "==|!=|<=|>=|=>|\\+=|-=|\\*=|/=|\\.\\.|[+\\-*/=<>]"
    }
  }
}"###

/-- The language configuration of Typst. -/
def typstConfiguration : String := r###"{
  "comments": {
    "lineComment": "//",
    "blockComment": [
      "/*",
      "*/"
    ]
  },
  "brackets": [
    [
      "[",
      "]"
    ],
    [
      "{",
      "}"
    ],
    [
      "(",
      ")"
    ]
  ],
  "autoClosingPairs": [
    {
      "open": "[",
      "close": "]"
    },
    {
      "open": "{",
      "close": "}"
    },
    {
      "open": "(",
      "close": ")"
    },
    {
      "open": "\"",
      "close": "\"",
      "notIn": [
        "string"
      ]
    },
    {
      "open": "$",
      "close": "$",
      "notIn": [
        "string"
      ]
    },
    {
      "open": "/*",
      "close": " */",
      "notIn": [
        "string"
      ]
    }
  ],
  "surroundingPairs": [
    [
      "[",
      "]"
    ],
    [
      "{",
      "}"
    ],
    [
      "(",
      ")"
    ],
    [
      "\"",
      "\""
    ],
    [
      "*",
      "*"
    ],
    [
      "_",
      "_"
    ],
    [
      "`",
      "`"
    ],
    [
      "$",
      "$"
    ]
  ]
}"###

end Tincture.Builtin
