namespace CssSelectors.Text

-- Colours and weights of a terminal, each with the code that ends it.
def green (text : String) : String := "\x1b[32m" ++ text ++ "\x1b[39m"

def red (text : String) : String := "\x1b[31m" ++ text ++ "\x1b[39m"

def yellow (text : String) : String := "\x1b[33m" ++ text ++ "\x1b[39m"

def dimmed (text : String) : String := "\x1b[2m" ++ text ++ "\x1b[0m"

def bold (text : String) : String := "\x1b[1m" ++ text ++ "\x1b[0m"

end CssSelectors.Text
