set_option autoImplicit false

namespace Criteria.Text.Named

def shapes : List (Nat × String) :=
  [(9632, "BLACK SQUARE;WHITE SQUARE;WHITE SQUARE WITH ROUNDED CORNERS;WHITE SQUARE " ++
     "CONTAINING BLACK SMALL SQUARE;SQUARE WITH HORIZONTAL FILL;SQUARE WITH VERTICAL " ++
     "FILL;SQUARE WITH ORTHOGONAL CROSSHATCH FILL;SQUARE WITH UPPER LEFT TO LOWER RIGHT " ++
     "FILL;SQUARE WITH UPPER RIGHT TO LOWER LEFT FILL;SQUARE WITH DIAGONAL CROSSHATCH " ++
     "FILL;BLACK SMALL SQUARE;WHITE SMALL SQUARE;BLACK RECTANGLE;WHITE RECTANGLE;BLACK " ++
     "VERTICAL RECTANGLE;WHITE VERTICAL RECTANGLE;BLACK PARALLELOGRAM;WHITE " ++
     "PARALLELOGRAM;BLACK UP-POINTING TRIANGLE;WHITE UP-POINTING TRIANGLE;BLACK " ++
     "UP-POINTING SMALL TRIANGLE;WHITE UP-POINTING SMALL TRIANGLE;BLACK RIGHT-POINTING " ++
     "TRIANGLE;WHITE RIGHT-POINTING TRIANGLE;BLACK RIGHT-POINTING SMALL TRIANGLE;WHITE " ++
     "RIGHT-POINTING SMALL TRIANGLE;BLACK RIGHT-POINTING POINTER;WHITE RIGHT-POINTING " ++
     "POINTER;BLACK DOWN-POINTING TRIANGLE;WHITE DOWN-POINTING TRIANGLE;BLACK " ++
     "DOWN-POINTING SMALL TRIANGLE;WHITE DOWN-POINTING SMALL TRIANGLE;BLACK " ++
     "LEFT-POINTING TRIANGLE;WHITE LEFT-POINTING TRIANGLE;BLACK LEFT-POINTING SMALL " ++
     "TRIANGLE;WHITE LEFT-POINTING SMALL TRIANGLE;BLACK LEFT-POINTING POINTER;WHITE " ++
     "LEFT-POINTING POINTER;BLACK DIAMOND;WHITE DIAMOND;WHITE DIAMOND CONTAINING BLACK " ++
     "SMALL DIAMOND;FISHEYE;LOZENGE;WHITE CIRCLE;DOTTED CIRCLE;CIRCLE WITH VERTICAL " ++
     "FILL;BULLSEYE;BLACK CIRCLE;CIRCLE WITH LEFT HALF BLACK;CIRCLE WITH RIGHT HALF " ++
     "BLACK;CIRCLE WITH LOWER HALF BLACK;CIRCLE WITH UPPER HALF BLACK;CIRCLE WITH UPPER " ++
     "RIGHT QUADRANT BLACK;CIRCLE WITH ALL BUT UPPER LEFT QUADRANT BLACK;LEFT HALF " ++
     "BLACK CIRCLE;RIGHT HALF BLACK CIRCLE;INVERSE BULLET;INVERSE WHITE CIRCLE;UPPER " ++
     "HALF INVERSE WHITE CIRCLE;LOWER HALF INVERSE WHITE CIRCLE;UPPER LEFT QUADRANT " ++
     "CIRCULAR ARC;UPPER RIGHT QUADRANT CIRCULAR ARC;LOWER RIGHT QUADRANT CIRCULAR ARC;" ++
     "LOWER LEFT QUADRANT CIRCULAR ARC;UPPER HALF CIRCLE;LOWER HALF CIRCLE;BLACK LOWER " ++
     "RIGHT TRIANGLE;BLACK LOWER LEFT TRIANGLE;BLACK UPPER LEFT TRIANGLE;BLACK UPPER " ++
     "RIGHT TRIANGLE;WHITE BULLET;SQUARE WITH LEFT HALF BLACK;SQUARE WITH RIGHT HALF " ++
     "BLACK;SQUARE WITH UPPER LEFT DIAGONAL HALF BLACK;SQUARE WITH LOWER RIGHT DIAGONAL " ++
     "HALF BLACK;WHITE SQUARE WITH VERTICAL BISECTING LINE;WHITE UP-POINTING TRIANGLE " ++
     "WITH DOT;UP-POINTING TRIANGLE WITH LEFT HALF BLACK;UP-POINTING TRIANGLE WITH " ++
     "RIGHT HALF BLACK;LARGE CIRCLE;WHITE SQUARE WITH UPPER LEFT QUADRANT;WHITE SQUARE " ++
     "WITH LOWER LEFT QUADRANT;WHITE SQUARE WITH LOWER RIGHT QUADRANT;WHITE SQUARE WITH " ++
     "UPPER RIGHT QUADRANT;WHITE CIRCLE WITH UPPER LEFT QUADRANT;WHITE CIRCLE WITH " ++
     "LOWER LEFT QUADRANT;WHITE CIRCLE WITH LOWER RIGHT QUADRANT;WHITE CIRCLE WITH " ++
     "UPPER RIGHT QUADRANT;UPPER LEFT TRIANGLE;UPPER RIGHT TRIANGLE;LOWER LEFT TRIANGLE;" ++
     "WHITE MEDIUM SQUARE;BLACK MEDIUM SQUARE;WHITE MEDIUM SMALL SQUARE;BLACK MEDIUM " ++
     "SMALL SQUARE;LOWER RIGHT TRIANGLE")]

def signs : List (Nat × String) :=
  [(9728, "BLACK SUN WITH RAYS;CLOUD;UMBRELLA;SNOWMAN;COMET;BLACK STAR;WHITE STAR;LIGHTNING;" ++
     "THUNDERSTORM;SUN;ASCENDING NODE;DESCENDING NODE;CONJUNCTION;OPPOSITION;BLACK " ++
     "TELEPHONE;WHITE TELEPHONE;BALLOT BOX;BALLOT BOX WITH CHECK;BALLOT BOX WITH X;" ++
     "SALTIRE;UMBRELLA WITH RAIN DROPS;HOT BEVERAGE;WHITE SHOGI PIECE;BLACK SHOGI PIECE;" ++
     "SHAMROCK;REVERSED ROTATED FLORAL HEART BULLET;BLACK LEFT POINTING INDEX;BLACK " ++
     "RIGHT POINTING INDEX;WHITE LEFT POINTING INDEX;WHITE UP POINTING INDEX;WHITE " ++
     "RIGHT POINTING INDEX;WHITE DOWN POINTING INDEX;SKULL AND CROSSBONES;CAUTION SIGN;" ++
     "RADIOACTIVE SIGN;BIOHAZARD SIGN;CADUCEUS;ANKH;ORTHODOX CROSS;CHI RHO;CROSS OF " ++
     "LORRAINE;CROSS OF JERUSALEM;STAR AND CRESCENT;FARSI SYMBOL;ADI SHAKTI;HAMMER AND " ++
     "SICKLE;PEACE SYMBOL;YIN YANG;TRIGRAM FOR HEAVEN;TRIGRAM FOR LAKE;TRIGRAM FOR FIRE;" ++
     "TRIGRAM FOR THUNDER;TRIGRAM FOR WIND;TRIGRAM FOR WATER;TRIGRAM FOR MOUNTAIN;" ++
     "TRIGRAM FOR EARTH;WHEEL OF DHARMA;WHITE FROWNING FACE;WHITE SMILING FACE;BLACK " ++
     "SMILING FACE;WHITE SUN WITH RAYS;FIRST QUARTER MOON;LAST QUARTER MOON;MERCURY;" ++
     "FEMALE SIGN;EARTH;MALE SIGN;JUPITER;SATURN;URANUS;NEPTUNE;PLUTO;ARIES;TAURUS;" ++
     "GEMINI;CANCER;LEO;VIRGO;LIBRA;SCORPIUS;SAGITTARIUS;CAPRICORN;AQUARIUS;PISCES;" ++
     "WHITE CHESS KING;WHITE CHESS QUEEN;WHITE CHESS ROOK;WHITE CHESS BISHOP;WHITE " ++
     "CHESS KNIGHT;WHITE CHESS PAWN;BLACK CHESS KING;BLACK CHESS QUEEN;BLACK CHESS ROOK;" ++
     "BLACK CHESS BISHOP;BLACK CHESS KNIGHT;BLACK CHESS PAWN;BLACK SPADE SUIT;WHITE " ++
     "HEART SUIT;WHITE DIAMOND SUIT;BLACK CLUB SUIT;WHITE SPADE SUIT;BLACK HEART SUIT;" ++
     "BLACK DIAMOND SUIT;WHITE CLUB SUIT;HOT SPRINGS;QUARTER NOTE;EIGHTH NOTE;BEAMED " ++
     "EIGHTH NOTES;BEAMED SIXTEENTH NOTES;MUSIC FLAT SIGN;MUSIC NATURAL SIGN;MUSIC " ++
     "SHARP SIGN;WEST SYRIAC CROSS;EAST SYRIAC CROSS;UNIVERSAL RECYCLING SYMBOL;" ++
     "RECYCLING SYMBOL FOR TYPE-1 PLASTICS;RECYCLING SYMBOL FOR TYPE-2 PLASTICS;" ++
     "RECYCLING SYMBOL FOR TYPE-3 PLASTICS;RECYCLING SYMBOL FOR TYPE-4 PLASTICS;" ++
     "RECYCLING SYMBOL FOR TYPE-5 PLASTICS;RECYCLING SYMBOL FOR TYPE-6 PLASTICS;" ++
     "RECYCLING SYMBOL FOR TYPE-7 PLASTICS;RECYCLING SYMBOL FOR GENERIC MATERIALS;BLACK " ++
     "UNIVERSAL RECYCLING SYMBOL;RECYCLED PAPER SYMBOL;PARTIALLY-RECYCLED PAPER SYMBOL;" ++
     "PERMANENT PAPER SIGN;WHEELCHAIR SYMBOL;DIE FACE-1;DIE FACE-2;DIE FACE-3;DIE " ++
     "FACE-4;DIE FACE-5;DIE FACE-6;WHITE CIRCLE WITH DOT RIGHT;WHITE CIRCLE WITH TWO " ++
     "DOTS;BLACK CIRCLE WITH WHITE DOT RIGHT;BLACK CIRCLE WITH TWO WHITE DOTS;MONOGRAM " ++
     "FOR YANG;MONOGRAM FOR YIN;DIGRAM FOR GREATER YANG;DIGRAM FOR LESSER YIN;DIGRAM " ++
     "FOR LESSER YANG;DIGRAM FOR GREATER YIN;WHITE FLAG;BLACK FLAG;HAMMER AND PICK;" ++
     "ANCHOR;CROSSED SWORDS;STAFF OF AESCULAPIUS;SCALES;ALEMBIC;FLOWER;GEAR;STAFF OF " ++
     "HERMES;ATOM SYMBOL;FLEUR-DE-LIS;OUTLINED WHITE STAR;THREE LINES CONVERGING RIGHT;" ++
     "THREE LINES CONVERGING LEFT;WARNING SIGN;HIGH VOLTAGE SIGN;DOUBLED FEMALE SIGN;" ++
     "DOUBLED MALE SIGN;INTERLOCKED FEMALE AND MALE SIGN;MALE AND FEMALE SIGN;MALE WITH " ++
     "STROKE SIGN;MALE WITH STROKE AND MALE AND FEMALE SIGN;VERTICAL MALE WITH STROKE " ++
     "SIGN;HORIZONTAL MALE WITH STROKE SIGN;MEDIUM WHITE CIRCLE;MEDIUM BLACK CIRCLE;" ++
     "MEDIUM SMALL WHITE CIRCLE;MARRIAGE SYMBOL;DIVORCE SYMBOL;UNMARRIED PARTNERSHIP " ++
     "SYMBOL;COFFIN;FUNERAL URN;NEUTER;CERES;PALLAS;JUNO;VESTA;CHIRON;BLACK MOON LILITH;" ++
     "SEXTILE;SEMISEXTILE;QUINCUNX;SESQUIQUADRATE;SOCCER BALL;BASEBALL;SQUARED KEY;" ++
     "WHITE DRAUGHTS MAN;WHITE DRAUGHTS KING;BLACK DRAUGHTS MAN;BLACK DRAUGHTS KING;" ++
     "SNOWMAN WITHOUT SNOW;SUN BEHIND CLOUD;RAIN;BLACK SNOWMAN;THUNDER CLOUD AND RAIN;" ++
     "TURNED WHITE SHOGI PIECE;TURNED BLACK SHOGI PIECE;WHITE DIAMOND IN SQUARE;" ++
     "CROSSING LANES;DISABLED CAR;OPHIUCHUS;PICK;CAR SLIDING;HELMET WITH WHITE CROSS;" ++
     "CIRCLED CROSSING LANES;CHAINS;NO ENTRY;ALTERNATE ONE-WAY LEFT WAY TRAFFIC;BLACK " ++
     "TWO-WAY LEFT WAY TRAFFIC;WHITE TWO-WAY LEFT WAY TRAFFIC;BLACK LEFT LANE MERGE;" ++
     "WHITE LEFT LANE MERGE;DRIVE SLOW SIGN;HEAVY WHITE DOWN-POINTING TRIANGLE;LEFT " ++
     "CLOSED ENTRY;SQUARED SALTIRE;FALLING DIAGONAL IN WHITE CIRCLE IN BLACK SQUARE;" ++
     "BLACK TRUCK;RESTRICTED LEFT ENTRY-1;RESTRICTED LEFT ENTRY-2;ASTRONOMICAL SYMBOL " ++
     "FOR URANUS;HEAVY CIRCLE WITH STROKE AND TWO DOTS ABOVE;PENTAGRAM;RIGHT-HANDED " ++
     "INTERLACED PENTAGRAM;LEFT-HANDED INTERLACED PENTAGRAM;INVERTED PENTAGRAM;BLACK " ++
     "CROSS ON SHIELD;SHINTO SHRINE;CHURCH;CASTLE;HISTORIC SITE;GEAR WITHOUT HUB;GEAR " ++
     "WITH HANDLES;MAP SYMBOL FOR LIGHTHOUSE;MOUNTAIN;UMBRELLA ON GROUND;FOUNTAIN;FLAG " ++
     "IN HOLE;FERRY;SAILBOAT;SQUARE FOUR CORNERS;SKIER;ICE SKATE;PERSON WITH BALL;TENT;" ++
     "JAPANESE BANK SYMBOL;HEADSTONE GRAVEYARD SYMBOL;FUEL PUMP;CUP ON BLACK SQUARE;" ++
     "WHITE FLAG WITH HORIZONTAL MIDDLE BLACK STRIPE")]

def ornaments : List (Nat × String) :=
  [(9984, "BLACK SAFETY SCISSORS;UPPER BLADE SCISSORS;BLACK SCISSORS;LOWER BLADE SCISSORS;" ++
     "WHITE SCISSORS;WHITE HEAVY CHECK MARK;TELEPHONE LOCATION SIGN;TAPE DRIVE;AIRPLANE;" ++
     "ENVELOPE;RAISED FIST;RAISED HAND;VICTORY HAND;WRITING HAND;LOWER RIGHT PENCIL;" ++
     "PENCIL;UPPER RIGHT PENCIL;WHITE NIB;BLACK NIB;CHECK MARK;HEAVY CHECK MARK;" ++
     "MULTIPLICATION X;HEAVY MULTIPLICATION X;BALLOT X;HEAVY BALLOT X;OUTLINED GREEK " ++
     "CROSS;HEAVY GREEK CROSS;OPEN CENTRE CROSS;HEAVY OPEN CENTRE CROSS;LATIN CROSS;" ++
     "SHADOWED WHITE LATIN CROSS;OUTLINED LATIN CROSS;MALTESE CROSS;STAR OF DAVID;FOUR " ++
     "TEARDROP-SPOKED ASTERISK;FOUR BALLOON-SPOKED ASTERISK;HEAVY FOUR BALLOON-SPOKED " ++
     "ASTERISK;FOUR CLUB-SPOKED ASTERISK;BLACK FOUR POINTED STAR;WHITE FOUR POINTED " ++
     "STAR;SPARKLES;STRESS OUTLINED WHITE STAR;CIRCLED WHITE STAR;OPEN CENTRE BLACK " ++
     "STAR;BLACK CENTRE WHITE STAR;OUTLINED BLACK STAR;HEAVY OUTLINED BLACK STAR;" ++
     "PINWHEEL STAR;SHADOWED WHITE STAR;HEAVY ASTERISK;OPEN CENTRE ASTERISK;EIGHT " ++
     "SPOKED ASTERISK;EIGHT POINTED BLACK STAR;EIGHT POINTED PINWHEEL STAR;SIX POINTED " ++
     "BLACK STAR;EIGHT POINTED RECTILINEAR BLACK STAR;HEAVY EIGHT POINTED RECTILINEAR " ++
     "BLACK STAR;TWELVE POINTED BLACK STAR;SIXTEEN POINTED ASTERISK;TEARDROP-SPOKED " ++
     "ASTERISK;OPEN CENTRE TEARDROP-SPOKED ASTERISK;HEAVY TEARDROP-SPOKED ASTERISK;SIX " ++
     "PETALLED BLACK AND WHITE FLORETTE;BLACK FLORETTE;WHITE FLORETTE;EIGHT PETALLED " ++
     "OUTLINED BLACK FLORETTE;CIRCLED OPEN CENTRE EIGHT POINTED STAR;HEAVY " ++
     "TEARDROP-SPOKED PINWHEEL ASTERISK;SNOWFLAKE;TIGHT TRIFOLIATE SNOWFLAKE;HEAVY " ++
     "CHEVRON SNOWFLAKE;SPARKLE;HEAVY SPARKLE;BALLOON-SPOKED ASTERISK;EIGHT " ++
     "TEARDROP-SPOKED PROPELLER ASTERISK;HEAVY EIGHT TEARDROP-SPOKED PROPELLER ASTERISK;" ++
     "CROSS MARK;SHADOWED WHITE CIRCLE;NEGATIVE SQUARED CROSS MARK;LOWER RIGHT " ++
     "DROP-SHADOWED WHITE SQUARE;UPPER RIGHT DROP-SHADOWED WHITE SQUARE;LOWER RIGHT " ++
     "SHADOWED WHITE SQUARE;UPPER RIGHT SHADOWED WHITE SQUARE;BLACK QUESTION MARK " ++
     "ORNAMENT;WHITE QUESTION MARK ORNAMENT;WHITE EXCLAMATION MARK ORNAMENT;BLACK " ++
     "DIAMOND MINUS WHITE X;HEAVY EXCLAMATION MARK SYMBOL;LIGHT VERTICAL BAR;MEDIUM " ++
     "VERTICAL BAR;HEAVY VERTICAL BAR;HEAVY SINGLE TURNED COMMA QUOTATION MARK ORNAMENT;" ++
     "HEAVY SINGLE COMMA QUOTATION MARK ORNAMENT;HEAVY DOUBLE TURNED COMMA QUOTATION " ++
     "MARK ORNAMENT;HEAVY DOUBLE COMMA QUOTATION MARK ORNAMENT;HEAVY LOW SINGLE COMMA " ++
     "QUOTATION MARK ORNAMENT;HEAVY LOW DOUBLE COMMA QUOTATION MARK ORNAMENT;CURVED " ++
     "STEM PARAGRAPH SIGN ORNAMENT;HEAVY EXCLAMATION MARK ORNAMENT;HEAVY HEART " ++
     "EXCLAMATION MARK ORNAMENT;HEAVY BLACK HEART;ROTATED HEAVY BLACK HEART BULLET;" ++
     "FLORAL HEART;ROTATED FLORAL HEART BULLET;MEDIUM LEFT PARENTHESIS ORNAMENT;MEDIUM " ++
     "RIGHT PARENTHESIS ORNAMENT;MEDIUM FLATTENED LEFT PARENTHESIS ORNAMENT;MEDIUM " ++
     "FLATTENED RIGHT PARENTHESIS ORNAMENT;MEDIUM LEFT-POINTING ANGLE BRACKET ORNAMENT;" ++
     "MEDIUM RIGHT-POINTING ANGLE BRACKET ORNAMENT;HEAVY LEFT-POINTING ANGLE QUOTATION " ++
     "MARK ORNAMENT;HEAVY RIGHT-POINTING ANGLE QUOTATION MARK ORNAMENT;HEAVY " ++
     "LEFT-POINTING ANGLE BRACKET ORNAMENT;HEAVY RIGHT-POINTING ANGLE BRACKET ORNAMENT;" ++
     "LIGHT LEFT TORTOISE SHELL BRACKET ORNAMENT;LIGHT RIGHT TORTOISE SHELL BRACKET " ++
     "ORNAMENT;MEDIUM LEFT CURLY BRACKET ORNAMENT;MEDIUM RIGHT CURLY BRACKET ORNAMENT;" ++
     "DINGBAT NEGATIVE CIRCLED DIGIT ONE;DINGBAT NEGATIVE CIRCLED DIGIT TWO;DINGBAT " ++
     "NEGATIVE CIRCLED DIGIT THREE;DINGBAT NEGATIVE CIRCLED DIGIT FOUR;DINGBAT NEGATIVE " ++
     "CIRCLED DIGIT FIVE;DINGBAT NEGATIVE CIRCLED DIGIT SIX;DINGBAT NEGATIVE CIRCLED " ++
     "DIGIT SEVEN;DINGBAT NEGATIVE CIRCLED DIGIT EIGHT;DINGBAT NEGATIVE CIRCLED DIGIT " ++
     "NINE;DINGBAT NEGATIVE CIRCLED NUMBER TEN;DINGBAT CIRCLED SANS-SERIF DIGIT ONE;" ++
     "DINGBAT CIRCLED SANS-SERIF DIGIT TWO;DINGBAT CIRCLED SANS-SERIF DIGIT THREE;" ++
     "DINGBAT CIRCLED SANS-SERIF DIGIT FOUR;DINGBAT CIRCLED SANS-SERIF DIGIT FIVE;" ++
     "DINGBAT CIRCLED SANS-SERIF DIGIT SIX;DINGBAT CIRCLED SANS-SERIF DIGIT SEVEN;" ++
     "DINGBAT CIRCLED SANS-SERIF DIGIT EIGHT;DINGBAT CIRCLED SANS-SERIF DIGIT NINE;" ++
     "DINGBAT CIRCLED SANS-SERIF NUMBER TEN;DINGBAT NEGATIVE CIRCLED SANS-SERIF DIGIT " ++
     "ONE;DINGBAT NEGATIVE CIRCLED SANS-SERIF DIGIT TWO;DINGBAT NEGATIVE CIRCLED " ++
     "SANS-SERIF DIGIT THREE;DINGBAT NEGATIVE CIRCLED SANS-SERIF DIGIT FOUR;DINGBAT " ++
     "NEGATIVE CIRCLED SANS-SERIF DIGIT FIVE;DINGBAT NEGATIVE CIRCLED SANS-SERIF DIGIT " ++
     "SIX;DINGBAT NEGATIVE CIRCLED SANS-SERIF DIGIT SEVEN;DINGBAT NEGATIVE CIRCLED " ++
     "SANS-SERIF DIGIT EIGHT;DINGBAT NEGATIVE CIRCLED SANS-SERIF DIGIT NINE;DINGBAT " ++
     "NEGATIVE CIRCLED SANS-SERIF NUMBER TEN;HEAVY WIDE-HEADED RIGHTWARDS ARROW;HEAVY " ++
     "PLUS SIGN;HEAVY MINUS SIGN;HEAVY DIVISION SIGN;HEAVY SOUTH EAST ARROW;HEAVY " ++
     "RIGHTWARDS ARROW;HEAVY NORTH EAST ARROW;DRAFTING POINT RIGHTWARDS ARROW;HEAVY " ++
     "ROUND-TIPPED RIGHTWARDS ARROW;TRIANGLE-HEADED RIGHTWARDS ARROW;HEAVY " ++
     "TRIANGLE-HEADED RIGHTWARDS ARROW;DASHED TRIANGLE-HEADED RIGHTWARDS ARROW;HEAVY " ++
     "DASHED TRIANGLE-HEADED RIGHTWARDS ARROW;BLACK RIGHTWARDS ARROW;THREE-D " ++
     "TOP-LIGHTED RIGHTWARDS ARROWHEAD;THREE-D BOTTOM-LIGHTED RIGHTWARDS ARROWHEAD;" ++
     "BLACK RIGHTWARDS ARROWHEAD;HEAVY BLACK CURVED DOWNWARDS AND RIGHTWARDS ARROW;" ++
     "HEAVY BLACK CURVED UPWARDS AND RIGHTWARDS ARROW;SQUAT BLACK RIGHTWARDS ARROW;" ++
     "HEAVY CONCAVE-POINTED BLACK RIGHTWARDS ARROW;RIGHT-SHADED WHITE RIGHTWARDS ARROW;" ++
     "LEFT-SHADED WHITE RIGHTWARDS ARROW;BACK-TILTED SHADOWED WHITE RIGHTWARDS ARROW;" ++
     "FRONT-TILTED SHADOWED WHITE RIGHTWARDS ARROW;HEAVY LOWER RIGHT-SHADOWED WHITE " ++
     "RIGHTWARDS ARROW;HEAVY UPPER RIGHT-SHADOWED WHITE RIGHTWARDS ARROW;NOTCHED LOWER " ++
     "RIGHT-SHADOWED WHITE RIGHTWARDS ARROW;CURLY LOOP;NOTCHED UPPER RIGHT-SHADOWED " ++
     "WHITE RIGHTWARDS ARROW;CIRCLED HEAVY WHITE RIGHTWARDS ARROW;WHITE-FEATHERED " ++
     "RIGHTWARDS ARROW;BLACK-FEATHERED SOUTH EAST ARROW;BLACK-FEATHERED RIGHTWARDS " ++
     "ARROW;BLACK-FEATHERED NORTH EAST ARROW;HEAVY BLACK-FEATHERED SOUTH EAST ARROW;" ++
     "HEAVY BLACK-FEATHERED RIGHTWARDS ARROW;HEAVY BLACK-FEATHERED NORTH EAST ARROW;" ++
     "TEARDROP-BARBED RIGHTWARDS ARROW;HEAVY TEARDROP-SHANKED RIGHTWARDS ARROW;" ++
     "WEDGE-TAILED RIGHTWARDS ARROW;HEAVY WEDGE-TAILED RIGHTWARDS ARROW;OPEN-OUTLINED " ++
     "RIGHTWARDS ARROW;DOUBLE CURLY LOOP")]

def pictures : List (Nat × String) :=
  [(127744, "CYCLONE;FOGGY;CLOSED UMBRELLA;NIGHT WITH STARS;SUNRISE OVER MOUNTAINS;SUNRISE;" ++
     "CITYSCAPE AT DUSK;SUNSET OVER BUILDINGS;RAINBOW;BRIDGE AT NIGHT;WATER WAVE;" ++
     "VOLCANO;MILKY WAY;EARTH GLOBE EUROPE-AFRICA;EARTH GLOBE AMERICAS;EARTH GLOBE " ++
     "ASIA-AUSTRALIA;GLOBE WITH MERIDIANS;NEW MOON SYMBOL;WAXING CRESCENT MOON SYMBOL;" ++
     "FIRST QUARTER MOON SYMBOL;WAXING GIBBOUS MOON SYMBOL;FULL MOON SYMBOL;WANING " ++
     "GIBBOUS MOON SYMBOL;LAST QUARTER MOON SYMBOL;WANING CRESCENT MOON SYMBOL;CRESCENT " ++
     "MOON;NEW MOON WITH FACE;FIRST QUARTER MOON WITH FACE;LAST QUARTER MOON WITH FACE;" ++
     "FULL MOON WITH FACE;SUN WITH FACE;GLOWING STAR;SHOOTING STAR;THERMOMETER;BLACK " ++
     "DROPLET;WHITE SUN;WHITE SUN WITH SMALL CLOUD;WHITE SUN BEHIND CLOUD;WHITE SUN " ++
     "BEHIND CLOUD WITH RAIN;CLOUD WITH RAIN;CLOUD WITH SNOW;CLOUD WITH LIGHTNING;CLOUD " ++
     "WITH TORNADO;FOG;WIND BLOWING FACE;HOT DOG;TACO;BURRITO;CHESTNUT;SEEDLING;" ++
     "EVERGREEN TREE;DECIDUOUS TREE;PALM TREE;CACTUS;HOT PEPPER;TULIP;CHERRY BLOSSOM;" ++
     "ROSE;HIBISCUS;SUNFLOWER;BLOSSOM;EAR OF MAIZE;EAR OF RICE;HERB;FOUR LEAF CLOVER;" ++
     "MAPLE LEAF;FALLEN LEAF;LEAF FLUTTERING IN WIND;MUSHROOM;TOMATO;AUBERGINE;GRAPES;" ++
     "MELON;WATERMELON;TANGERINE;LEMON;BANANA;PINEAPPLE;RED APPLE;GREEN APPLE;PEAR;" ++
     "PEACH;CHERRIES;STRAWBERRY;HAMBURGER;SLICE OF PIZZA;MEAT ON BONE;POULTRY LEG;RICE " ++
     "CRACKER;RICE BALL;COOKED RICE;CURRY AND RICE;STEAMING BOWL;SPAGHETTI;BREAD;FRENCH " ++
     "FRIES;ROASTED SWEET POTATO;DANGO;ODEN;SUSHI;FRIED SHRIMP;FISH CAKE WITH SWIRL " ++
     "DESIGN;SOFT ICE CREAM;SHAVED ICE;ICE CREAM;DOUGHNUT;COOKIE;CHOCOLATE BAR;CANDY;" ++
     "LOLLIPOP;CUSTARD;HONEY POT;SHORTCAKE;BENTO BOX;POT OF FOOD;COOKING;FORK AND KNIFE;" ++
     "TEACUP WITHOUT HANDLE;SAKE BOTTLE AND CUP;WINE GLASS;COCKTAIL GLASS;TROPICAL " ++
     "DRINK;BEER MUG;CLINKING BEER MUGS;BABY BOTTLE;FORK AND KNIFE WITH PLATE;BOTTLE " ++
     "WITH POPPING CORK;POPCORN;RIBBON;WRAPPED PRESENT;BIRTHDAY CAKE;JACK-O-LANTERN;" ++
     "CHRISTMAS TREE;FATHER CHRISTMAS;FIREWORKS;FIREWORK SPARKLER;BALLOON;PARTY POPPER;" ++
     "CONFETTI BALL;TANABATA TREE;CROSSED FLAGS;PINE DECORATION;JAPANESE DOLLS;CARP " ++
     "STREAMER;WIND CHIME;MOON VIEWING CEREMONY;SCHOOL SATCHEL;GRADUATION CAP;HEART " ++
     "WITH TIP ON THE LEFT;BOUQUET OF FLOWERS;MILITARY MEDAL;REMINDER RIBBON;MUSICAL " ++
     "KEYBOARD WITH JACKS;STUDIO MICROPHONE;LEVEL SLIDER;CONTROL KNOBS;BEAMED ASCENDING " ++
     "MUSICAL NOTES;BEAMED DESCENDING MUSICAL NOTES;FILM FRAMES;ADMISSION TICKETS;" ++
     "CAROUSEL HORSE;FERRIS WHEEL;ROLLER COASTER;FISHING POLE AND FISH;MICROPHONE;MOVIE " ++
     "CAMERA;CINEMA;HEADPHONE;ARTIST PALETTE;TOP HAT;CIRCUS TENT;TICKET;CLAPPER BOARD;" ++
     "PERFORMING ARTS;VIDEO GAME;DIRECT HIT;SLOT MACHINE;BILLIARDS;GAME DIE;BOWLING;" ++
     "FLOWER PLAYING CARDS;MUSICAL NOTE;MULTIPLE MUSICAL NOTES;SAXOPHONE;GUITAR;MUSICAL " ++
     "KEYBOARD;TRUMPET;VIOLIN;MUSICAL SCORE;RUNNING SHIRT WITH SASH;TENNIS RACQUET AND " ++
     "BALL;SKI AND SKI BOOT;BASKETBALL AND HOOP;CHEQUERED FLAG;SNOWBOARDER;RUNNER;" ++
     "SURFER;SPORTS MEDAL;TROPHY;HORSE RACING;AMERICAN FOOTBALL;RUGBY FOOTBALL;SWIMMER;" ++
     "WEIGHT LIFTER;GOLFER;RACING MOTORCYCLE;RACING CAR;CRICKET BAT AND BALL;VOLLEYBALL;" ++
     "FIELD HOCKEY STICK AND BALL;ICE HOCKEY STICK AND PUCK;TABLE TENNIS PADDLE AND " ++
     "BALL;SNOW CAPPED MOUNTAIN;CAMPING;BEACH WITH UMBRELLA;BUILDING CONSTRUCTION;HOUSE " ++
     "BUILDINGS;CITYSCAPE;DERELICT HOUSE BUILDING;CLASSICAL BUILDING;DESERT;DESERT " ++
     "ISLAND;NATIONAL PARK;STADIUM;HOUSE BUILDING;HOUSE WITH GARDEN;OFFICE BUILDING;" ++
     "JAPANESE POST OFFICE;EUROPEAN POST OFFICE;HOSPITAL;BANK;AUTOMATED TELLER MACHINE;" ++
     "HOTEL;LOVE HOTEL;CONVENIENCE STORE;SCHOOL;DEPARTMENT STORE;FACTORY;IZAKAYA " ++
     "LANTERN;JAPANESE CASTLE;EUROPEAN CASTLE;WHITE PENNANT;BLACK PENNANT;WAVING WHITE " ++
     "FLAG;WAVING BLACK FLAG;ROSETTE;BLACK ROSETTE;LABEL;BADMINTON RACQUET AND " ++
     "SHUTTLECOCK;BOW AND ARROW;AMPHORA;EMOJI MODIFIER FITZPATRICK TYPE-1-2;EMOJI " ++
     "MODIFIER FITZPATRICK TYPE-3;EMOJI MODIFIER FITZPATRICK TYPE-4;EMOJI MODIFIER " ++
     "FITZPATRICK TYPE-5;EMOJI MODIFIER FITZPATRICK TYPE-6;RAT;MOUSE;OX;WATER BUFFALO;" ++
     "COW;TIGER;LEOPARD;RABBIT;CAT;DRAGON;CROCODILE;WHALE;SNAIL;SNAKE;HORSE;RAM;GOAT;" ++
     "SHEEP;MONKEY;ROOSTER;CHICKEN;DOG;PIG;BOAR;ELEPHANT;OCTOPUS;SPIRAL SHELL;BUG;ANT;" ++
     "HONEYBEE;LADY BEETLE;FISH;TROPICAL FISH;BLOWFISH;TURTLE;HATCHING CHICK;BABY CHICK;" ++
     "FRONT-FACING BABY CHICK;BIRD;PENGUIN;KOALA;POODLE;DROMEDARY CAMEL;BACTRIAN CAMEL;" ++
     "DOLPHIN;MOUSE FACE;COW FACE;TIGER FACE;RABBIT FACE;CAT FACE;DRAGON FACE;SPOUTING " ++
     "WHALE;HORSE FACE;MONKEY FACE;DOG FACE;PIG FACE;FROG FACE;HAMSTER FACE;WOLF FACE;" ++
     "BEAR FACE;PANDA FACE;PIG NOSE;PAW PRINTS;CHIPMUNK;EYES;EYE;EAR;NOSE;MOUTH;TONGUE;" ++
     "WHITE UP POINTING BACKHAND INDEX;WHITE DOWN POINTING BACKHAND INDEX;WHITE LEFT " ++
     "POINTING BACKHAND INDEX;WHITE RIGHT POINTING BACKHAND INDEX;FISTED HAND SIGN;" ++
     "WAVING HAND SIGN;OK HAND SIGN;THUMBS UP SIGN;THUMBS DOWN SIGN;CLAPPING HANDS SIGN;" ++
     "OPEN HANDS SIGN;CROWN;WOMANS HAT;EYEGLASSES;NECKTIE;T-SHIRT;JEANS;DRESS;KIMONO;" ++
     "BIKINI;WOMANS CLOTHES;PURSE;HANDBAG;POUCH;MANS SHOE;ATHLETIC SHOE;HIGH-HEELED " ++
     "SHOE;WOMANS SANDAL;WOMANS BOOTS;FOOTPRINTS;BUST IN SILHOUETTE;BUSTS IN SILHOUETTE;" ++
     "BOY;GIRL;MAN;WOMAN;FAMILY;MAN AND WOMAN HOLDING HANDS;TWO MEN HOLDING HANDS;TWO " ++
     "WOMEN HOLDING HANDS;POLICE OFFICER;WOMAN WITH BUNNY EARS;BRIDE WITH VEIL;PERSON " ++
     "WITH BLOND HAIR;MAN WITH GUA PI MAO;MAN WITH TURBAN;OLDER MAN;OLDER WOMAN;BABY;" ++
     "CONSTRUCTION WORKER;PRINCESS;JAPANESE OGRE;JAPANESE GOBLIN;GHOST;BABY ANGEL;" ++
     "EXTRATERRESTRIAL ALIEN;ALIEN MONSTER;IMP;SKULL;INFORMATION DESK PERSON;GUARDSMAN;" ++
     "DANCER;LIPSTICK;NAIL POLISH;FACE MASSAGE;HAIRCUT;BARBER POLE;SYRINGE;PILL;KISS " ++
     "MARK;LOVE LETTER;RING;GEM STONE;KISS;BOUQUET;COUPLE WITH HEART;WEDDING;BEATING " ++
     "HEART;BROKEN HEART;TWO HEARTS;SPARKLING HEART;GROWING HEART;HEART WITH ARROW;BLUE " ++
     "HEART;GREEN HEART;YELLOW HEART;PURPLE HEART;HEART WITH RIBBON;REVOLVING HEARTS;" ++
     "HEART DECORATION;DIAMOND SHAPE WITH A DOT INSIDE;ELECTRIC LIGHT BULB;ANGER SYMBOL;" ++
     "BOMB;SLEEPING SYMBOL;COLLISION SYMBOL;SPLASHING SWEAT SYMBOL;DROPLET;DASH SYMBOL;" ++
     "PILE OF POO;FLEXED BICEPS;DIZZY SYMBOL;SPEECH BALLOON;THOUGHT BALLOON;WHITE " ++
     "FLOWER;HUNDRED POINTS SYMBOL;MONEY BAG;CURRENCY EXCHANGE;HEAVY DOLLAR SIGN;CREDIT " ++
     "CARD;BANKNOTE WITH YEN SIGN;BANKNOTE WITH DOLLAR SIGN;BANKNOTE WITH EURO SIGN;" ++
     "BANKNOTE WITH POUND SIGN;MONEY WITH WINGS;CHART WITH UPWARDS TREND AND YEN SIGN;" ++
     "SEAT;PERSONAL COMPUTER;BRIEFCASE;MINIDISC;FLOPPY DISK;OPTICAL DISC;DVD;FILE " ++
     "FOLDER;OPEN FILE FOLDER;PAGE WITH CURL;PAGE FACING UP;CALENDAR;TEAR-OFF CALENDAR;" ++
     "CARD INDEX;CHART WITH UPWARDS TREND;CHART WITH DOWNWARDS TREND;BAR CHART;" ++
     "CLIPBOARD;PUSHPIN;ROUND PUSHPIN;PAPERCLIP;STRAIGHT RULER;TRIANGULAR RULER;" ++
     "BOOKMARK TABS;LEDGER;NOTEBOOK;NOTEBOOK WITH DECORATIVE COVER;CLOSED BOOK;OPEN " ++
     "BOOK;GREEN BOOK;BLUE BOOK;ORANGE BOOK;BOOKS;NAME BADGE;SCROLL;MEMO;TELEPHONE " ++
     "RECEIVER;PAGER;FAX MACHINE;SATELLITE ANTENNA;PUBLIC ADDRESS LOUDSPEAKER;CHEERING " ++
     "MEGAPHONE;OUTBOX TRAY;INBOX TRAY;PACKAGE;E-MAIL SYMBOL;INCOMING ENVELOPE;ENVELOPE " ++
     "WITH DOWNWARDS ARROW ABOVE;CLOSED MAILBOX WITH LOWERED FLAG;CLOSED MAILBOX WITH " ++
     "RAISED FLAG;OPEN MAILBOX WITH RAISED FLAG;OPEN MAILBOX WITH LOWERED FLAG;POSTBOX;" ++
     "POSTAL HORN;NEWSPAPER;MOBILE PHONE;MOBILE PHONE WITH RIGHTWARDS ARROW AT LEFT;" ++
     "VIBRATION MODE;MOBILE PHONE OFF;NO MOBILE PHONES;ANTENNA WITH BARS;CAMERA;CAMERA " ++
     "WITH FLASH;VIDEO CAMERA;TELEVISION;RADIO;VIDEOCASSETTE;FILM PROJECTOR;PORTABLE " ++
     "STEREO;PRAYER BEADS;TWISTED RIGHTWARDS ARROWS;CLOCKWISE RIGHTWARDS AND LEFTWARDS " ++
     "OPEN CIRCLE ARROWS;CLOCKWISE RIGHTWARDS AND LEFTWARDS OPEN CIRCLE ARROWS WITH " ++
     "CIRCLED ONE OVERLAY;CLOCKWISE DOWNWARDS AND UPWARDS OPEN CIRCLE ARROWS;" ++
     "ANTICLOCKWISE DOWNWARDS AND UPWARDS OPEN CIRCLE ARROWS;LOW BRIGHTNESS SYMBOL;HIGH " ++
     "BRIGHTNESS SYMBOL;SPEAKER WITH CANCELLATION STROKE;SPEAKER;SPEAKER WITH ONE SOUND " ++
     "WAVE;SPEAKER WITH THREE SOUND WAVES;BATTERY;ELECTRIC PLUG;LEFT-POINTING " ++
     "MAGNIFYING GLASS;RIGHT-POINTING MAGNIFYING GLASS;LOCK WITH INK PEN;CLOSED LOCK " ++
     "WITH KEY;KEY;LOCK;OPEN LOCK;BELL;BELL WITH CANCELLATION STROKE;BOOKMARK;LINK " ++
     "SYMBOL;RADIO BUTTON;BACK WITH LEFTWARDS ARROW ABOVE;END WITH LEFTWARDS ARROW " ++
     "ABOVE;ON WITH EXCLAMATION MARK WITH LEFT RIGHT ARROW ABOVE;SOON WITH RIGHTWARDS " ++
     "ARROW ABOVE;TOP WITH UPWARDS ARROW ABOVE;NO ONE UNDER EIGHTEEN SYMBOL;KEYCAP TEN;" ++
     "INPUT SYMBOL FOR LATIN CAPITAL LETTERS;INPUT SYMBOL FOR LATIN SMALL LETTERS;INPUT " ++
     "SYMBOL FOR NUMBERS;INPUT SYMBOL FOR SYMBOLS;INPUT SYMBOL FOR LATIN LETTERS;FIRE;" ++
     "ELECTRIC TORCH;WRENCH;HAMMER;NUT AND BOLT;HOCHO;PISTOL;MICROSCOPE;TELESCOPE;" ++
     "CRYSTAL BALL;SIX POINTED STAR WITH MIDDLE DOT;JAPANESE SYMBOL FOR BEGINNER;" ++
     "TRIDENT EMBLEM;BLACK SQUARE BUTTON;WHITE SQUARE BUTTON;LARGE RED CIRCLE;LARGE " ++
     "BLUE CIRCLE;LARGE ORANGE DIAMOND;LARGE BLUE DIAMOND;SMALL ORANGE DIAMOND;SMALL " ++
     "BLUE DIAMOND;UP-POINTING RED TRIANGLE;DOWN-POINTING RED TRIANGLE;UP-POINTING " ++
     "SMALL RED TRIANGLE;DOWN-POINTING SMALL RED TRIANGLE;LOWER RIGHT SHADOWED WHITE " ++
     "CIRCLE;UPPER RIGHT SHADOWED WHITE CIRCLE;CIRCLED CROSS POMMEE;CROSS POMMEE WITH " ++
     "HALF-CIRCLE BELOW;CROSS POMMEE;NOTCHED LEFT SEMICIRCLE WITH THREE DOTS;NOTCHED " ++
     "RIGHT SEMICIRCLE WITH THREE DOTS;SYMBOL FOR MARKS CHAPTER;WHITE LATIN CROSS;HEAVY " ++
     "LATIN CROSS;CELTIC CROSS;OM SYMBOL;DOVE OF PEACE;KAABA;MOSQUE;SYNAGOGUE;MENORAH " ++
     "WITH NINE BRANCHES;BOWL OF HYGIEIA;CLOCK FACE ONE OCLOCK;CLOCK FACE TWO OCLOCK;" ++
     "CLOCK FACE THREE OCLOCK;CLOCK FACE FOUR OCLOCK;CLOCK FACE FIVE OCLOCK;CLOCK FACE " ++
     "SIX OCLOCK;CLOCK FACE SEVEN OCLOCK;CLOCK FACE EIGHT OCLOCK;CLOCK FACE NINE OCLOCK;" ++
     "CLOCK FACE TEN OCLOCK;CLOCK FACE ELEVEN OCLOCK;CLOCK FACE TWELVE OCLOCK;CLOCK " ++
     "FACE ONE-THIRTY;CLOCK FACE TWO-THIRTY;CLOCK FACE THREE-THIRTY;CLOCK FACE " ++
     "FOUR-THIRTY;CLOCK FACE FIVE-THIRTY;CLOCK FACE SIX-THIRTY;CLOCK FACE SEVEN-THIRTY;" ++
     "CLOCK FACE EIGHT-THIRTY;CLOCK FACE NINE-THIRTY;CLOCK FACE TEN-THIRTY;CLOCK FACE " ++
     "ELEVEN-THIRTY;CLOCK FACE TWELVE-THIRTY;RIGHT SPEAKER;RIGHT SPEAKER WITH ONE SOUND " ++
     "WAVE;RIGHT SPEAKER WITH THREE SOUND WAVES;BULLHORN;BULLHORN WITH SOUND WAVES;" ++
     "RINGING BELL;BOOK;CANDLE;MANTELPIECE CLOCK;BLACK SKULL AND CROSSBONES;NO PIRACY;" ++
     "HOLE;MAN IN BUSINESS SUIT LEVITATING;SLEUTH OR SPY;DARK SUNGLASSES;SPIDER;SPIDER " ++
     "WEB;JOYSTICK;MAN DANCING;LEFT HAND TELEPHONE RECEIVER;TELEPHONE RECEIVER WITH " ++
     "PAGE;RIGHT HAND TELEPHONE RECEIVER;WHITE TOUCHTONE TELEPHONE;BLACK TOUCHTONE " ++
     "TELEPHONE;TELEPHONE ON TOP OF MODEM;CLAMSHELL MOBILE PHONE;BACK OF ENVELOPE;" ++
     "STAMPED ENVELOPE;ENVELOPE WITH LIGHTNING;FLYING ENVELOPE;PEN OVER STAMPED " ++
     "ENVELOPE;LINKED PAPERCLIPS;BLACK PUSHPIN;LOWER LEFT PENCIL;LOWER LEFT BALLPOINT " ++
     "PEN;LOWER LEFT FOUNTAIN PEN;LOWER LEFT PAINTBRUSH;LOWER LEFT CRAYON;LEFT WRITING " ++
     "HAND;TURNED OK HAND SIGN;RAISED HAND WITH FINGERS SPLAYED;REVERSED RAISED HAND " ++
     "WITH FINGERS SPLAYED;REVERSED THUMBS UP SIGN;REVERSED THUMBS DOWN SIGN;REVERSED " ++
     "VICTORY HAND;REVERSED HAND WITH MIDDLE FINGER EXTENDED;RAISED HAND WITH PART " ++
     "BETWEEN MIDDLE AND RING FINGERS;WHITE DOWN POINTING LEFT HAND INDEX;SIDEWAYS " ++
     "WHITE LEFT POINTING INDEX;SIDEWAYS WHITE RIGHT POINTING INDEX;SIDEWAYS BLACK LEFT " ++
     "POINTING INDEX;SIDEWAYS BLACK RIGHT POINTING INDEX;BLACK LEFT POINTING BACKHAND " ++
     "INDEX;BLACK RIGHT POINTING BACKHAND INDEX;SIDEWAYS WHITE UP POINTING INDEX;" ++
     "SIDEWAYS WHITE DOWN POINTING INDEX;SIDEWAYS BLACK UP POINTING INDEX;SIDEWAYS " ++
     "BLACK DOWN POINTING INDEX;BLACK UP POINTING BACKHAND INDEX;BLACK DOWN POINTING " ++
     "BACKHAND INDEX;BLACK HEART;DESKTOP COMPUTER;KEYBOARD AND MOUSE;THREE NETWORKED " ++
     "COMPUTERS;PRINTER;POCKET CALCULATOR;BLACK HARD SHELL FLOPPY DISK;WHITE HARD SHELL " ++
     "FLOPPY DISK;SOFT SHELL FLOPPY DISK;TAPE CARTRIDGE;WIRED KEYBOARD;ONE BUTTON MOUSE;" ++
     "TWO BUTTON MOUSE;THREE BUTTON MOUSE;TRACKBALL;OLD PERSONAL COMPUTER;HARD DISK;" ++
     "SCREEN;PRINTER ICON;FAX ICON;OPTICAL DISC ICON;DOCUMENT WITH TEXT;DOCUMENT WITH " ++
     "TEXT AND PICTURE;DOCUMENT WITH PICTURE;FRAME WITH PICTURE;FRAME WITH TILES;FRAME " ++
     "WITH AN X;BLACK FOLDER;FOLDER;OPEN FOLDER;CARD INDEX DIVIDERS;CARD FILE BOX;FILE " ++
     "CABINET;EMPTY NOTE;EMPTY NOTE PAGE;EMPTY NOTE PAD;NOTE;NOTE PAGE;NOTE PAD;EMPTY " ++
     "DOCUMENT;EMPTY PAGE;EMPTY PAGES;DOCUMENT;PAGE;PAGES;WASTEBASKET;SPIRAL NOTE PAD;" ++
     "SPIRAL CALENDAR PAD;DESKTOP WINDOW;MINIMIZE;MAXIMIZE;OVERLAP;CLOCKWISE RIGHT AND " ++
     "LEFT SEMICIRCLE ARROWS;CANCELLATION X;INCREASE FONT SIZE SYMBOL;DECREASE FONT " ++
     "SIZE SYMBOL;COMPRESSION;OLD KEY;ROLLED-UP NEWSPAPER;PAGE WITH CIRCLED TEXT;STOCK " ++
     "CHART;DAGGER KNIFE;LIPS;SPEAKING HEAD IN SILHOUETTE;THREE RAYS ABOVE;THREE RAYS " ++
     "BELOW;THREE RAYS LEFT;THREE RAYS RIGHT;LEFT SPEECH BUBBLE;RIGHT SPEECH BUBBLE;TWO " ++
     "SPEECH BUBBLES;THREE SPEECH BUBBLES;LEFT THOUGHT BUBBLE;RIGHT THOUGHT BUBBLE;LEFT " ++
     "ANGER BUBBLE;RIGHT ANGER BUBBLE;MOOD BUBBLE;LIGHTNING MOOD BUBBLE;LIGHTNING MOOD;" ++
     "BALLOT BOX WITH BALLOT;BALLOT SCRIPT X;BALLOT BOX WITH SCRIPT X;BALLOT BOLD " ++
     "SCRIPT X;BALLOT BOX WITH BOLD SCRIPT X;LIGHT CHECK MARK;BALLOT BOX WITH BOLD " ++
     "CHECK;WORLD MAP;MOUNT FUJI;TOKYO TOWER;STATUE OF LIBERTY;SILHOUETTE OF JAPAN;MOYAI")]

def faces : List (Nat × String) :=
  [(128512, "GRINNING FACE;GRINNING FACE WITH SMILING EYES;FACE WITH TEARS OF JOY;SMILING FACE " ++
     "WITH OPEN MOUTH;SMILING FACE WITH OPEN MOUTH AND SMILING EYES;SMILING FACE WITH " ++
     "OPEN MOUTH AND COLD SWEAT;SMILING FACE WITH OPEN MOUTH AND TIGHTLY-CLOSED EYES;" ++
     "SMILING FACE WITH HALO;SMILING FACE WITH HORNS;WINKING FACE;SMILING FACE WITH " ++
     "SMILING EYES;FACE SAVOURING DELICIOUS FOOD;RELIEVED FACE;SMILING FACE WITH " ++
     "HEART-SHAPED EYES;SMILING FACE WITH SUNGLASSES;SMIRKING FACE;NEUTRAL FACE;" ++
     "EXPRESSIONLESS FACE;UNAMUSED FACE;FACE WITH COLD SWEAT;PENSIVE FACE;CONFUSED FACE;" ++
     "CONFOUNDED FACE;KISSING FACE;FACE THROWING A KISS;KISSING FACE WITH SMILING EYES;" ++
     "KISSING FACE WITH CLOSED EYES;FACE WITH STUCK-OUT TONGUE;FACE WITH STUCK-OUT " ++
     "TONGUE AND WINKING EYE;FACE WITH STUCK-OUT TONGUE AND TIGHTLY-CLOSED EYES;" ++
     "DISAPPOINTED FACE;WORRIED FACE;ANGRY FACE;POUTING FACE;CRYING FACE;PERSEVERING " ++
     "FACE;FACE WITH LOOK OF TRIUMPH;DISAPPOINTED BUT RELIEVED FACE;FROWNING FACE WITH " ++
     "OPEN MOUTH;ANGUISHED FACE;FEARFUL FACE;WEARY FACE;SLEEPY FACE;TIRED FACE;" ++
     "GRIMACING FACE;LOUDLY CRYING FACE;FACE WITH OPEN MOUTH;HUSHED FACE;FACE WITH OPEN " ++
     "MOUTH AND COLD SWEAT;FACE SCREAMING IN FEAR;ASTONISHED FACE;FLUSHED FACE;SLEEPING " ++
     "FACE;DIZZY FACE;FACE WITHOUT MOUTH;FACE WITH MEDICAL MASK;GRINNING CAT FACE WITH " ++
     "SMILING EYES;CAT FACE WITH TEARS OF JOY;SMILING CAT FACE WITH OPEN MOUTH;SMILING " ++
     "CAT FACE WITH HEART-SHAPED EYES;CAT FACE WITH WRY SMILE;KISSING CAT FACE WITH " ++
     "CLOSED EYES;POUTING CAT FACE;CRYING CAT FACE;WEARY CAT FACE;SLIGHTLY FROWNING " ++
     "FACE;SLIGHTLY SMILING FACE;UPSIDE-DOWN FACE;FACE WITH ROLLING EYES;FACE WITH NO " ++
     "GOOD GESTURE;FACE WITH OK GESTURE;PERSON BOWING DEEPLY;SEE-NO-EVIL MONKEY;" ++
     "HEAR-NO-EVIL MONKEY;SPEAK-NO-EVIL MONKEY;HAPPY PERSON RAISING ONE HAND;PERSON " ++
     "RAISING BOTH HANDS IN CELEBRATION;PERSON FROWNING;PERSON WITH POUTING FACE;PERSON " ++
     "WITH FOLDED HANDS")]

end Criteria.Text.Named
